import ClusterTransport.Text.Blank
import ClusterTransport.Text.Pieces

/-!
# Pieces of a text

Where a text is cut at separators that its pieces do not hold, the pieces come back. A suffix that
is dropped begins behind the last character that stays.
-/

namespace ClusterTransport.Text

variable {separator : Char} {before after : List Char}

theorem splitAll_of_not_mem (h : separator ∉ before) : splitAll separator before = [before] := by
  induction before with
  | nil => rfl
  | cons c before ih =>
    rw [List.mem_cons, not_or] at h
    rw [splitAll, if_neg (Ne.symm h.1), ih h.2]

private theorem splitAll_append (h : separator ∉ before) :
    splitAll separator (before ++ separator :: after) = before :: splitAll separator after := by
  induction before with
  | nil => rw [List.nil_append, splitAll, if_pos rfl]
  | cons c before ih =>
    rw [List.mem_cons, not_or] at h
    rw [List.cons_append, splitAll, if_neg (Ne.symm h.1), ih h.2]

/-- Pieces come back from a text with a separator in front of each but the first. -/
theorem splitAll_append_flatMap {pieces : List (List Char)} (hbefore : separator ∉ before)
    (h : ∀ piece ∈ pieces, separator ∉ piece) :
    splitAll separator (before ++ pieces.flatMap (separator :: ·)) = before :: pieces := by
  induction pieces generalizing before with
  | nil => rw [List.flatMap_nil, List.append_nil, splitAll_of_not_mem hbefore]
  | cons piece pieces ih =>
    rw [List.forall_mem_cons] at h
    rw [List.flatMap_cons, List.cons_append, splitAll_append hbefore, ih h.1 h.2]

theorem cut_append (h : separator ∉ before) :
    cut separator (before ++ separator :: after) = (before, after) := by
  induction before with
  | nil => rw [List.nil_append, cut, if_pos rfl]
  | cons c before ih =>
    rw [List.mem_cons, not_or] at h
    rw [List.cons_append, cut, if_neg (Ne.symm h.1), ih h.2]

theorem dropEndWhile_append_cons {p : Char → Bool} {c : Char} (h : p c = false) :
    dropEndWhile p (before ++ c :: after) = before ++ c :: dropEndWhile p after := by
  have hstop : (c :: before.reverse).dropWhile p = c :: before.reverse :=
    List.dropWhile_cons_of_neg (by rw [h]; exact Bool.false_ne_true)
  rw [dropEndWhile, dropEndWhile, List.reverse_append, List.reverse_cons, List.append_assoc,
    List.singleton_append, List.dropWhile_append, hstop]
  split
  next hempty => simp [List.isEmpty_iff.mp hempty]
  next => simp

theorem dropWhile_congr {p q : Char → Bool} {s : List Char} (h : ∀ c ∈ s, p c = q c) :
    s.dropWhile p = s.dropWhile q := by
  induction s with
  | nil => rfl
  | cons c s ih =>
    rw [List.forall_mem_cons] at h
    rw [List.dropWhile_cons, List.dropWhile_cons, h.1, ih h.2]

theorem mem_of_mem_dropEndWhile {p : Char → Bool} {s : List Char} {c : Char}
    (h : c ∈ dropEndWhile p s) : c ∈ s :=
  List.mem_reverse.mp ((List.dropWhile_sublist p).mem (List.mem_reverse.mp h))

end ClusterTransport.Text

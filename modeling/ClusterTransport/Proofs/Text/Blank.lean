import ClusterTransport.Text.Blank

/-!
# Trimming

Trimming a text leaves the one part of it that has white space around it and none at its ends.
-/

namespace ClusterTransport.Text

theorem dropWhile_eq_self {p : Char → Bool} {s : List Char} (h : ∀ c ∈ s.head?, p c = false) :
    s.dropWhile p = s := by
  cases s with
  | nil => rfl
  | cons c s => exact List.dropWhile_cons_of_neg (by simp [h c rfl])

theorem dropEndWhile_eq_self {p : Char → Bool} {s : List Char}
    (h : ∀ c ∈ s.getLast?, p c = false) : dropEndWhile p s = s := by
  rw [dropEndWhile, dropWhile_eq_self (by rwa [List.head?_reverse]), List.reverse_reverse]

theorem dropEndWhile_append_of_pos {p : Char → Bool} {s ends : List Char}
    (h : ∀ c ∈ ends, p c = true) : dropEndWhile p (s ++ ends) = dropEndWhile p s := by
  rw [dropEndWhile, List.reverse_append,
    List.dropWhile_append_of_pos fun c hc => h c (List.mem_reverse.mp hc)]
  rfl

private theorem dropEndWhile_append_takeEnd (p : Char → Bool) (s : List Char) :
    dropEndWhile p s ++ (s.reverse.takeWhile p).reverse = s := by
  rw [dropEndWhile, ← List.reverse_append, List.takeWhile_append_dropWhile, List.reverse_reverse]

private theorem head?_dropWhile_eq_false {p : Char → Bool} {s : List Char} {c : Char}
    (h : c ∈ (s.dropWhile p).head?) : p c = false := by
  have hstop := List.head?_dropWhile_not p s
  rwa [Option.mem_def.mp h] at hstop

/-- A text without the white space around it. -/
structure Trimmed (s t : List Char) : Prop where
  around : ∃ before after, s = before ++ t ++ after ∧ ∀ c ∈ before ++ after, isBlank c = true
  first : ∀ c ∈ t.head?, isBlank c = false
  last : ∀ c ∈ t.getLast?, isBlank c = false

theorem isBlank_of_isDigit {c : Char} (h : c.isDigit = true) : isBlank c = false := by
  have hrange : 48 ≤ c.toNat ∧ c.toNat ≤ 57 := by
    simpa [Char.isDigit, UInt32.le_iff_toNat_le] using h
  simp [isBlank, blankRanges]
  omega

variable {s t : List Char}

theorem trim_of_trimmed (h : Trimmed s t) : trim s = t := by
  obtain ⟨before, after, rfl, hblank⟩ := h.around
  rw [List.forall_mem_append] at hblank
  rw [trim, List.append_assoc, List.dropWhile_append_of_pos hblank.1]
  cases t with
  | nil =>
    have hrest : (after ++ []).dropWhile isBlank = [] := List.dropWhile_append_of_pos hblank.2
    rw [List.append_nil] at hrest
    rw [List.nil_append, hrest]
    rfl
  | cons c t =>
    have hstop : ((c :: t) ++ after).dropWhile isBlank = (c :: t) ++ after :=
      dropWhile_eq_self h.first
    rw [hstop, dropEndWhile_append_of_pos hblank.2, dropEndWhile_eq_self h.last]

theorem trimmed_trim (s : List Char) : Trimmed s (trim s) where
  around := by
    refine ⟨s.takeWhile isBlank, ((s.dropWhile isBlank).reverse.takeWhile isBlank).reverse, ?_, ?_⟩
    · rw [trim, List.append_assoc, dropEndWhile_append_takeEnd, List.takeWhile_append_dropWhile]
    · intro c hc
      rcases List.mem_append.mp hc with hc | hc
      · exact List.all_eq_true.mp List.all_takeWhile c hc
      · exact List.all_eq_true.mp List.all_takeWhile c (List.mem_reverse.mp hc)
  first := by
    intro c hc
    have hkept : (trim s ++ _).head? = (s.dropWhile isBlank).head? :=
      congrArg List.head? (dropEndWhile_append_takeEnd isBlank (s.dropWhile isBlank))
    rw [List.head?_append, Option.or_of_isSome (Option.isSome_of_mem hc)] at hkept
    exact head?_dropWhile_eq_false (hkept ▸ hc)
  last := by
    intro c hc
    rw [trim, dropEndWhile, List.getLast?_reverse] at hc
    exact head?_dropWhile_eq_false hc

end ClusterTransport.Text

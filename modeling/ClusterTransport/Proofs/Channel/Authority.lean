import ClusterTransport.Channel.Authority
import ClusterTransport.Proofs.Address
import ClusterTransport.Proofs.Runs
import Mathlib.Data.List.TakeWhile

/-!
# The server that an authority names

An authority made of a written address names the host and the port of that address, unless the host
holds what ends an authority, or sets off the user in it, or starts with a bracket.
-/

namespace ClusterTransport.Authority

variable {s t : List Char} {c : Char}

/-! ## Brackets -/

theorem Seen.brackets_of_step {seen next : Seen} (h : seen.step c = some next) :
    next.opened.toNat = seen.opened.toNat + (if c = '[' then 1 else 0) ∧
      next.closed.toNat = seen.closed.toNat + (if c = ']' then 1 else 0) := by
  unfold step at h
  repeat' split at h
  all_goals cases h
  all_goals simp_all

/-- The brackets of the text before are those that were seen. -/
structure Counts (before : List Char) (seen : Seen) : Prop where
  opening : before.count '[' = seen.opened.toNat
  closing : before.count ']' = seen.closed.toNat

theorem Counts.step {before : List Char} {seen next : Seen} (h : Counts before seen)
    (hstep : seen.step c = some next) : Counts (before ++ [c]) next := by
  obtain ⟨hopening, hclosing⟩ := Seen.brackets_of_step hstep
  refine ⟨?_, ?_⟩
  · simp [List.count_append, List.count_singleton, h.opening, hopening]
  · simp [List.count_append, List.count_singleton, h.closing, hclosing]

private theorem count_bracket_of_isValid (h : isValid s = true) :
    s.count '[' = s.count ']' ∧ s.count ']' ≤ 1 := by
  unfold isValid at h
  obtain ⟨seen, hseen, hcomplete⟩ := (Option.any_eq_true _ _).mp h
  have hcounts : Counts s seen :=
    foldlM_induction Counts ⟨rfl, rfl⟩ (fun _ _ _ _ _ => Counts.step) hseen
  simp only [Seen.isComplete, Bool.and_eq_true, beq_iff_eq] at hcomplete
  rw [hcounts.opening, hcounts.closing, hcomplete.1.1.1]
  exact ⟨rfl, Bool.toNat_le _⟩

/-! ## Parts -/

theorem takeWhile_ne_append {before after : List Char} (h : c ∉ before) :
    (before ++ c :: after).takeWhile (· ≠ c) = before := by
  rw [List.takeWhile_append_of_pos fun d hd => decide_eq_true (ne_of_mem_of_not_mem hd h)]
  simp

private theorem mem_takeWhile_ne {d : Char} (h : c ∈ s.takeWhile (· ≠ d)) : c ∈ s ∧ c ≠ d :=
  ⟨(List.takeWhile_sublist _).mem h, by simpa using List.mem_takeWhile_imp h⟩

private theorem mem_withoutUser (h : c ∈ withoutUser s) : c ∈ s ∧ c ≠ '@' := by
  rw [withoutUser, List.mem_reverse] at h
  obtain ⟨hmem, hne⟩ := mem_takeWhile_ne h
  exact ⟨List.mem_reverse.mp hmem, hne⟩

private theorem withoutUser_eq_self (h : '@' ∉ s) : withoutUser s = s := by
  have hall : ∀ c ∈ s.reverse, decide (c ≠ '@') = true := fun c hc =>
    decide_eq_true (ne_of_mem_of_not_mem (List.mem_reverse.mp hc) h)
  rw [withoutUser, List.takeWhile_eq_self_iff.mpr hall, List.reverse_reverse]

private theorem mem_host (h : c ∈ host s) : c ∈ s ∧ c ≠ '@' := by
  unfold host at h
  split at h
  next rest hrest =>
    exact mem_withoutUser (hrest ▸ List.mem_cons_of_mem _ (mem_takeWhile_ne h).1)
  next => exact mem_withoutUser (mem_takeWhile_ne h).1

private theorem host_bracketed (h : '@' ∉ '[' :: s) : host ('[' :: s) = s.takeWhile (· ≠ ']') := by
  rw [host, withoutUser_eq_self h]
  rfl

private theorem host_plain (h : '@' ∉ s) (hfirst : s.head? ≠ some '[') :
    host s = s.takeWhile (· ≠ ':') := by
  rw [host, withoutUser_eq_self h]
  split
  next rest => exact absurd rfl hfirst
  next => rfl

private theorem portText_append {before port : List Char} (h : ':' ∉ port) :
    portText (before ++ ':' :: port) = some port := by
  have hlast : (before ++ ':' :: port).reverse = port.reverse ++ ':' :: before.reverse := by simp
  rw [portText, if_pos (by simp), hlast, takeWhile_ne_append (by simpa using h),
    List.reverse_reverse]

private theorem mem_split (h : c ∈ (split s).1) : c ∈ s ∧ isEnd c = false :=
  ⟨(List.takeWhile_sublist _).mem h, by simpa using List.mem_takeWhile_imp h⟩

private theorem split_eq_self (h : ∀ c ∈ s, isEnd c = false) : (split s).1 = s :=
  List.takeWhile_eq_self_iff.mpr fun c hc => by simp [h c hc]

/-! ## Written addresses -/

/-- The authority names the host and the port of an address. -/
structure Names (s : List Char) (a : Address) : Prop where
  host : host s = a.host.toList
  port : portText s = some (Address.portText a.port)

/-- A host that an authority can name. -/
structure IsPlainHost (host : List Char) : Prop where
  /-- No character ends the authority or sets off a user. -/
  apart : ∀ c ∈ host, isEnd c = false ∧ c ≠ '@'
  first : host.head? ≠ some '['

variable {a : Address}

private theorem mem_render (h : c ∈ a.render.toList) :
    c ∈ a.host.toList ∨ c.isDigit = true ∨ c ∈ ['[', ']', ':'] := by
  have hport : c ∈ Address.portText a.port → c.isDigit = true := Address.isDigit_of_mem_portText
  rw [Address.toList_render] at h
  split at h
  · simp only [List.mem_cons, List.mem_append] at h ⊢
    grind
  · simp only [List.mem_cons, List.mem_append] at h ⊢
    grind

private theorem not_mem_portText (hc : c.isDigit = false) (port : UInt16) :
    c ∉ Address.portText port := by
  intro hmem
  rw [Address.isDigit_of_mem_portText hmem] at hc
  cases hc

private theorem apart_of_isDigit (h : c.isDigit = true) : isEnd c = false ∧ c ≠ '@' := by
  have hne (d : Char) (hd : d.isDigit = false) : c ≠ d := by
    rintro rfl
    rw [h] at hd
    cases hd
  simp [isEnd, hne '/' rfl, hne '?' rfl, hne '#' rfl, hne '@' rfl]

private theorem apart_render (h : ∀ c ∈ a.host.toList, isEnd c = false ∧ c ≠ '@') :
    ∀ c ∈ a.render.toList, isEnd c = false ∧ c ≠ '@' := by
  intro c hc
  have hmarks : ∀ d ∈ ['[', ']', ':'], isEnd d = false ∧ d ≠ '@' := by simp [isEnd]
  rcases mem_render hc with hhost | hdigit | hmark
  · exact h c hhost
  · exact apart_of_isDigit hdigit
  · exact hmarks c hmark

private theorem split_render (h : ∀ c ∈ a.host.toList, isEnd c = false ∧ c ≠ '@') :
    (split a.render.toList).1 = a.render.toList :=
  split_eq_self fun c hc => (apart_render h c hc).1

private theorem portText_render (a : Address) :
    portText a.render.toList = some (Address.portText a.port) := by
  have hport := not_mem_portText (c := ':') rfl a.port
  rw [Address.toList_render]
  split
  · have hlast : '[' :: (a.host.toList ++ ']' :: ':' :: Address.portText a.port) =
        ('[' :: (a.host.toList ++ [']'])) ++ ':' :: Address.portText a.port := by simp
    rw [hlast, portText_append hport]
  · exact portText_append hport

private theorem host_render_iff (h : ∀ c ∈ a.host.toList, isEnd c = false ∧ c ≠ '@')
    (hvalid : isValid a.render.toList = true) :
    host a.render.toList = a.host.toList ↔ a.host.toList.head? ≠ some '[' := by
  have huser : '@' ∉ a.render.toList := fun hmem => (apart_render h '@' hmem).2 rfl
  obtain ⟨hsame, hone⟩ := count_bracket_of_isValid hvalid
  rw [Address.toList_render] at huser hsame hone ⊢
  split at huser
  next hcolon =>
    -- the brackets around the host are the only ones
    simp only [hcolon, if_true] at hsame hone ⊢
    have hclosing : a.host.toList.count ']' = 0 := by
      simp at hone
      omega
    have hopening : a.host.toList.count '[' = 0 := by
      simp at hsame hone
      omega
    rw [host_bracketed huser, takeWhile_ne_append (List.count_eq_zero.mp hclosing)]
    refine iff_of_true rfl fun hfirst => ?_
    exact List.count_eq_zero.mp hopening (List.mem_of_head? hfirst)
  next hcolon =>
    simp only [hcolon, if_false] at hsame hone ⊢
    constructor
    · intro hhost hfirst
      -- the host ends at the bracket that closes the first one
      obtain ⟨rest, hrest⟩ := List.head?_eq_some_iff.mp hfirst
      have hopening : 0 < (a.host.toList ++ ':' :: Address.portText a.port).count '[' :=
        List.count_pos_iff.mpr (by simp [hrest])
      have hclosing : ']' ∈ a.host.toList := by
        have hmem := List.count_pos_iff.mp (hsame ▸ hopening)
        simpa [not_mem_portText (c := ']') rfl] using hmem
      rw [hrest, List.cons_append] at huser
      rw [← hhost, hrest, List.cons_append, host_bracketed huser] at hclosing
      exact (mem_takeWhile_ne hclosing).2 rfl
    · intro hfirst
      rw [host_plain huser, takeWhile_ne_append hcolon]
      cases hhead : a.host.toList with
      | nil => simp
      | cons c rest => simpa [hhead] using hfirst

/-- The authority in front of a written address names it if and only if its host is plain. -/
theorem names_split_render_iff (hvalid : isValid (split a.render.toList).1 = true) :
    Names (split a.render.toList).1 a ↔ IsPlainHost a.host.toList := by
  constructor
  · intro h
    have hapart : ∀ c ∈ a.host.toList, isEnd c = false ∧ c ≠ '@' := by
      intro c hc
      obtain ⟨hmem, hne⟩ := mem_host (h.host ▸ hc)
      exact ⟨(mem_split hmem).2, hne⟩
    have hhost := h.host
    rw [split_render hapart] at hvalid hhost
    exact ⟨hapart, (host_render_iff hapart hvalid).mp hhost⟩
  · intro h
    rw [split_render h.apart] at hvalid ⊢
    exact ⟨(host_render_iff h.apart hvalid).mpr h.first, portText_render a⟩

end ClusterTransport.Authority

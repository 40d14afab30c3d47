import ClusterTransport.Proofs.Address.Grammar

/-!
# Addresses read back

An address is read back from its written form if and only if its host is free of what reading takes
for something else.
-/

namespace ClusterTransport

namespace Address

open Text

variable {a : Address}

def portText (port : UInt16) : List Char :=
  Nat.toDigits 10 port.toNat

theorem isPort_portText (port : UInt16) : IsPort (portText port) port :=
  .unsigned (Numeral.isDigits_toDigits (Nat.le_of_lt_succ port.toNat_lt))

theorem isDigit_of_mem_portText {port : UInt16} {c : Char} (h : c ∈ portText port) :
    c.isDigit = true :=
  Numeral.isDigit_of_mem_toDigits h

theorem toList_render (a : Address) :
    a.render.toList =
      if ':' ∈ a.host.toList then '[' :: (a.host.toList ++ ']' :: ':' :: portText a.port)
      else a.host.toList ++ ':' :: portText a.port := by
  unfold render
  split <;> simp [portText]

private theorem isBlank_of_getLast?_render {c : Char} (h : c ∈ a.render.toList.getLast?) :
    isBlank c = false := by
  have hport (before : List Char) (hc : c ∈ (before ++ portText a.port).getLast?) :
      isBlank c = false := by
    rw [List.getLast?_append, Option.or_of_isSome (by simp [portText])] at hc
    exact isBlank_of_isDigit (isDigit_of_mem_portText (List.mem_of_getLast? hc))
  rw [toList_render] at h
  split at h
  · exact hport ('[' :: (a.host.toList ++ [']', ':'])) (by simpa using h)
  · exact hport (a.host.toList ++ [':']) (by simpa using h)

private theorem head?_render (a : Address) :
    a.render.toList.head? =
      some (if ':' ∈ a.host.toList then '[' else a.host.toList.head?.getD ':') := by
  rw [toList_render]
  split
  · rfl
  · cases a.host.toList <;> rfl

private theorem trimmed_render (h : ∀ c ∈ a.render.toList.head?, isBlank c = false) :
    Trimmed a.render.toList a.render.toList where
  around := ⟨[], [], by simp, by simp⟩
  first := h
  last := fun _ hc => isBlank_of_getLast?_render hc

/-- A host that can stand in front of a port, or in brackets if it holds a colon. -/
def IsLegible (host : List Char) : Prop :=
  if ':' ∈ host then ']' ∉ host else ∀ c ∈ host.head?, c ≠ '[' ∧ isBlank c = false

private theorem isLegible_iff {host : List Char} :
    IsLegible host ↔ (':' ∈ host ∧ ']' ∉ host) ∨
      (':' ∉ host ∧ host.head? ≠ some '[' ∧ ∀ c ∈ host.head?, isBlank c = false) := by
  unfold IsLegible
  by_cases hcolon : ':' ∈ host
  · simp [hcolon]
  · cases host.head? <;> simp [hcolon]

private theorem IsLegible.isBlank_head (h : IsLegible a.host.toList) :
    ∀ c ∈ a.render.toList.head?, isBlank c = false := by
  rw [head?_render]
  rintro c ⟨⟩
  unfold IsLegible at h
  split
  next => decide
  next hcolon =>
    rw [if_neg hcolon] at h
    cases hhead : a.host.toList.head? with
    | none => decide
    | some c => exact (h c hhead).2

private theorem IsLegible.spells (h : IsLegible a.host.toList) : Spells a.render.toList a := by
  have hself : (⟨String.ofList a.host.toList, a.port⟩ : Address) = a := by simp
  have hport := isPort_portText a.port
  unfold IsLegible at h
  by_cases hcolon : ':' ∈ a.host.toList
  · rw [if_pos hcolon] at h
    have hspells := Spells.bracketedWithPort h hport
    rw [hself] at hspells
    rwa [toList_render, if_pos hcolon]
  · rw [if_neg hcolon] at h
    have hfirst : a.render.toList.head? ≠ some '[' := by
      rw [head?_render, if_neg hcolon]
      cases hhead : a.host.toList.head? with
      | none => decide
      | some c => simpa using (h c hhead).1
    have htext : a.render.toList = a.host.toList ++ ':' :: portText a.port := by
      rw [toList_render, if_neg hcolon]
    rw [htext] at hfirst ⊢
    have hspells := Spells.bareWithPort hfirst hcolon hport
    rwa [hself] at hspells

/-- An address with a legible host is read back from its written form. -/
theorem parse_render (h : IsLegible a.host.toList) : parse a.render = .ok a :=
  parse_eq_ok_iff.mpr ⟨_, trimmed_render h.isBlank_head, h.spells⟩

theorem isLegible_of_spells {t : List Char} (htrim : Trimmed a.render.toList t)
    (h : Spells t a) : IsLegible a.host.toList := by
  unfold IsLegible
  split
  next hcolon =>
    have hhead : a.render.toList.head? = some '[' := by rw [head?_render, if_pos hcolon]
    have hself : Trimmed a.render.toList a.render.toList := by
      refine trimmed_render ?_
      rw [hhead]
      rintro c ⟨⟩
      decide
    have ht : a.render.toList = t := (trim_of_trimmed hself).symm.trans (trim_of_trimmed htrim)
    rcases h.host_cases with ⟨_, -, hbracket⟩ | ⟨hfirst, -⟩
    · exact hbracket
    · exact absurd (ht ▸ hhead) hfirst
  next hcolon =>
    rcases h.host_cases with ⟨rest, rfl, -⟩ | ⟨hfirst, hprefix⟩
    · -- the only colon ends the host, so the host cannot stand behind a bracket before it
      obtain ⟨before, after, htext, hblank⟩ := htrim.around
      have hcolons : a.host.toList ++ [':'] <+: a.render.toList := by
        rw [toList_render, if_neg hcolon]
        exact ⟨portText a.port, by simp⟩
      have hbracket : before ++ '[' :: a.host.toList <+: a.render.toList := by
        rw [htext]
        exact ⟨']' :: (rest ++ after), by simp⟩
      have hlength : (a.host.toList ++ [':']).length ≤ (before ++ '[' :: a.host.toList).length := by
        simp
      have hmem : ':' ∈ before ++ '[' :: a.host.toList :=
        (List.prefix_of_prefix_length_le hcolons hbracket hlength).mem (by simp)
      rcases List.mem_append.mp hmem with hmem | hmem
      · exact absurd (hblank ':' (List.mem_append_left _ hmem)) (by decide)
      · exact absurd (by simpa using hmem) hcolon
    · intro c hc
      have ht : t.head? = some c := by
        obtain ⟨rest, rfl⟩ := hprefix
        rw [List.head?_append, Option.mem_def.mp hc]
        rfl
      refine ⟨?_, htrim.first c ht⟩
      rintro rfl
      exact hfirst ht

end Address

namespace Endpoint

open Text

/-- What a written address is read with is its own host and port if and only if the host holds a
colon and no closing bracket, or holds no colon and starts neither with an opening bracket nor with
white space. -/
theorem parse_address_iff (e : Endpoint) :
    (∃ r, parse e.address = .ok r ∧ r.host = e.host ∧ r.port = e.port) ↔
      (':' ∈ e.host.toList ∧ ']' ∉ e.host.toList) ∨
        (':' ∉ e.host.toList ∧ e.host.toList.head? ≠ some '[' ∧
          ∀ c ∈ e.host.toList.head?, isBlank c = false) := by
  rw [← Address.isLegible_iff]
  constructor
  · rintro ⟨r, hparse, hhost, hport⟩
    obtain ⟨a, hread, rfl⟩ := map_eq_ok_iff.mp hparse
    obtain ⟨t, htrim, hspells⟩ := Address.parse_eq_ok_iff.mp hread
    have hself : a = e.toAddress := by
      cases a
      simp_all [ofAddress]
    rw [hself] at hspells
    exact Address.isLegible_of_spells htrim hspells
  · intro h
    exact ⟨ofAddress e.toAddress, map_eq_ok_iff.mpr ⟨_, Address.parse_render h, rfl⟩, rfl, rfl⟩

end Endpoint

end ClusterTransport

import ClusterTransport.Config.Basic
import ClusterTransport.Proofs.Text.Blank
import ClusterTransport.Proofs.Text.Numeral

/-!
# The grammar of addresses

What is read as an address, and as which one, said form by form: in brackets or bare, with a port
or without.
-/

namespace ClusterTransport

namespace Address

open Text

variable {text : List Char} {a : Address}

theorem splitFirst_append {c : Char} {before after : List Char} (h : c ∉ before) :
    splitFirst c (before ++ c :: after) = some (before, after) := by
  induction before with
  | nil => simp [splitFirst]
  | cons d before ih =>
    rw [List.mem_cons, not_or] at h
    simp [splitFirst, Ne.symm h.1, ih h.2]

private theorem splitFirst_eq_none_iff {c : Char} {s : List Char} :
    splitFirst c s = none ↔ c ∉ s := by
  induction s with
  | nil => simp [splitFirst]
  | cons d s ih =>
    by_cases hd : d = c
    · simp [splitFirst, hd]
    · simp [splitFirst, hd, ih, Ne.symm hd]

private theorem splitFirst_eq_some_iff {c : Char} {s before after : List Char} :
    splitFirst c s = some (before, after) ↔ s = before ++ c :: after ∧ c ∉ before := by
  constructor
  · intro h
    induction s generalizing before with
    | nil => cases h
    | cons d s ih =>
      rw [splitFirst] at h
      by_cases hd : d = c
      · rw [if_pos hd] at h
        cases h
        exact ⟨by rw [hd]; rfl, List.not_mem_nil⟩
      · rw [if_neg hd] at h
        obtain ⟨⟨rest, after'⟩, hsplit, heq⟩ := Option.map_eq_some_iff.mp h
        cases heq
        obtain ⟨hs, hrest⟩ := ih hsplit
        exact ⟨by rw [hs]; rfl, by simp [Ne.symm hd, hrest]⟩
  · rintro ⟨rfl, h⟩
    exact splitFirst_append h

def IsPort (text : List Char) (port : UInt16) : Prop :=
  Numeral.IsNumeral 65535 text port.toNat

private theorem readPort_eq_ok_iff {digits : List Char} {port : UInt16} :
    readPort text digits = .ok port ↔ IsPort digits port := by
  rw [IsPort, ← Numeral.readNat_eq_ok_iff, readPort]
  cases hread : Numeral.readNat 65535 digits with
  | error fault => simp
  | ok n =>
    have hlt : n < UInt16.size := Nat.lt_succ_of_le (Numeral.readNat_eq_ok_iff.mp hread).le_limit
    simp only [Except.ok.injEq]
    constructor
    · rintro rfl
      exact (UInt16.toNat_ofNat_of_lt hlt).symm
    · rintro rfl
      exact UInt16.ofNat_toNat

/-- The forms of an address, and the address that each stands for. -/
inductive Spells : List Char → Address → Prop where
  | bracketed {host : List Char} (hhost : ']' ∉ host) :
      Spells ('[' :: (host ++ [']'])) ⟨String.ofList host, 2135⟩
  | bracketedWithPort {host digits : List Char} {port : UInt16} (hhost : ']' ∉ host)
      (hport : IsPort digits port) :
      Spells ('[' :: (host ++ ']' :: ':' :: digits)) ⟨String.ofList host, port⟩
  | bare {host : List Char} (hne : host ≠ []) (hfirst : host.head? ≠ some '[')
      (hcolons : host.count ':' ≠ 1) : Spells host ⟨String.ofList host, 2135⟩
  | bareWithPort {host digits : List Char} {port : UInt16}
      (hfirst : (host ++ ':' :: digits).head? ≠ some '[') (hhost : ':' ∉ host)
      (hport : IsPort digits port) :
      Spells (host ++ ':' :: digits) ⟨String.ofList host, port⟩

private theorem readBracketed_eq_ok_iff {inner : List Char} :
    readBracketed text inner = .ok a ↔ Spells ('[' :: inner) a := by
  constructor
  · intro h
    rw [readBracketed] at h
    split at h
    next => cases h
    next host hsplit =>
      obtain ⟨rfl, hhost⟩ := splitFirst_eq_some_iff.mp hsplit
      cases h
      exact .bracketed hhost
    next host digits hsplit =>
      obtain ⟨rfl, hhost⟩ := splitFirst_eq_some_iff.mp hsplit
      obtain ⟨port, hport, rfl⟩ := map_eq_ok_iff.mp h
      exact .bracketedWithPort hhost (readPort_eq_ok_iff.mp hport)
    next => cases h
  · intro h
    generalize htext : '[' :: inner = t at h
    cases h with
    | bracketed hhost =>
      cases htext
      rw [readBracketed, splitFirst_append hhost]
      rfl
    | bracketedWithPort hhost hport =>
      cases htext
      rw [readBracketed, splitFirst_append hhost]
      simp only [readPort_eq_ok_iff.mpr hport]
      rfl
    | bare _ hfirst =>
      rw [← htext] at hfirst
      exact absurd rfl hfirst
    | bareWithPort hfirst =>
      rw [← htext] at hfirst
      exact absurd rfl hfirst

theorem colon_not_mem_of_isPort {digits : List Char} {port : UInt16} (h : IsPort digits port) :
    ':' ∉ digits := by
  intro hcolon
  cases h with
  | unsigned hdigits => exact absurd (hdigits.isDigit ':' hcolon) (by decide)
  | signed hdigits =>
    rcases List.mem_cons.mp hcolon with hplus | hcolon
    · cases hplus
    · exact absurd (hdigits.isDigit ':' hcolon) (by decide)

theorem count_append_colon {host digits : List Char} (h : ':' ∉ host) :
    (host ++ ':' :: digits).count ':' = digits.count ':' + 1 := by
  rw [List.count_append, List.count_eq_zero.mpr h, List.count_cons_self, Nat.zero_add]

private theorem readPlain_eq_ok_iff (hne : text ≠ []) (hfirst : text.head? ≠ some '[') :
    readPlain text = .ok a ↔ Spells text a := by
  constructor
  · intro h
    rw [readPlain] at h
    split at h
    next hsplit =>
      cases h
      refine .bare hne hfirst ?_
      rw [List.count_eq_zero.mpr (splitFirst_eq_none_iff.mp hsplit)]
      decide
    next host digits hsplit =>
      obtain ⟨rfl, hhost⟩ := splitFirst_eq_some_iff.mp hsplit
      split at h
      next hcolon =>
        cases h
        refine .bare hne hfirst ?_
        rw [count_append_colon hhost]
        have hmore : 0 < digits.count ':' := List.count_pos_iff.mpr hcolon
        omega
      next =>
        obtain ⟨port, hport, rfl⟩ := map_eq_ok_iff.mp h
        exact .bareWithPort hfirst hhost (readPort_eq_ok_iff.mp hport)
  · intro h
    cases h with
    | bracketed => exact absurd rfl hfirst
    | bracketedWithPort => exact absurd rfl hfirst
    | bare _ _ hcolons =>
      rw [readPlain]
      split
      next => rfl
      next host digits hsplit =>
        obtain ⟨rfl, hhost⟩ := splitFirst_eq_some_iff.mp hsplit
        have hcolon : ':' ∈ digits := by
          rw [count_append_colon hhost] at hcolons
          exact List.count_pos_iff.mp (by omega)
        rw [if_pos hcolon]
        rfl
    | bareWithPort _ hhost hport =>
      rw [readPlain, splitFirst_append hhost]
      simp only [colon_not_mem_of_isPort hport, if_false, readPort_eq_ok_iff.mpr hport]
      rfl

theorem Spells.host_cases (h : Spells text a) :
    (∃ rest, text = '[' :: (a.host.toList ++ ']' :: rest) ∧ ']' ∉ a.host.toList) ∨
      text.head? ≠ some '[' ∧ a.host.toList <+: text := by
  cases h with
  | bracketed hhost =>
    rw [String.toList_ofList]
    exact .inl ⟨_, rfl, hhost⟩
  | bracketedWithPort hhost =>
    rw [String.toList_ofList]
    exact .inl ⟨_, rfl, hhost⟩
  | bare _ hfirst =>
    rw [String.toList_ofList]
    exact .inr ⟨hfirst, List.prefix_refl _⟩
  | bareWithPort hfirst =>
    rw [String.toList_ofList]
    exact .inr ⟨hfirst, List.prefix_append _ _⟩

private theorem Spells.ne_nil (h : Spells text a) : text ≠ [] := by
  cases h with
  | bracketed => simp
  | bracketedWithPort => simp
  | bare hne => exact hne
  | bareWithPort => simp

/-- Exactly the texts that spell an address are read. -/
theorem read_eq_ok_iff : read text = .ok a ↔ Spells text a := by
  fun_cases read text with
  | case1 => exact iff_of_false nofun fun h => h.ne_nil rfl
  | case2 inner => exact readBracketed_eq_ok_iff
  | case3 _ hne hbracket =>
    refine readPlain_eq_ok_iff hne fun hfirst => ?_
    obtain ⟨inner, rfl⟩ := List.head?_eq_some_iff.mp hfirst
    exact hbracket inner rfl

theorem parse_eq_ok_iff {s : String} :
    parse s = .ok a ↔ ∃ t, Trimmed s.toList t ∧ Spells t a := by
  rw [parse, read_eq_ok_iff]
  constructor
  · intro h
    exact ⟨_, trimmed_trim s.toList, h⟩
  · rintro ⟨t, ht, h⟩
    rwa [trim_of_trimmed ht]

end Address

namespace Endpoint

open Text

/-- A text is read as an endpoint if and only if it spells an address once the white space around
it is left out; the endpoint has that address, and nothing else is known of it. Any other text is a
fault of the configuration that it is read for. -/
theorem parse_eq_ok_iff_spells (s : String) :
    (∀ e, parse s = .ok e ↔ ∃ t a, Trimmed s.toList t ∧ Address.Spells t a ∧
      e = { a with nodeId := 0, location := "", loadFactor := .zero }) ∧
    ((¬ ∃ t a, Trimmed s.toList t ∧ Address.Spells t a) ↔
      ∃ fault, parse s = .error fault ∧ ∀ c : Config,
        { c with endpoint := s }.bootstrap = .error (.configuration (.address fault))) := by
  refine ⟨?_, ?_⟩
  · intro e
    rw [parse, map_eq_ok_iff]
    constructor
    · rintro ⟨a, hread, rfl⟩
      obtain ⟨t, ht, ha⟩ := Address.parse_eq_ok_iff.mp hread
      exact ⟨t, a, ht, ha, rfl⟩
    · rintro ⟨t, a, ht, ha, rfl⟩
      exact ⟨a, Address.parse_eq_ok_iff.mpr ⟨t, ht, ha⟩, rfl⟩
  · cases hread : Address.parse s with
    | ok a =>
      have hparse : parse s = .ok (ofAddress a) := by
        rw [parse, hread]
        rfl
      obtain ⟨t, ht, ha⟩ := Address.parse_eq_ok_iff.mp hread
      refine iff_of_false (fun hnone => hnone ⟨t, a, ht, ha⟩) ?_
      rintro ⟨fault, herror, -⟩
      cases hparse.symm.trans herror
    | error fault =>
      have hparse : parse s = .error fault := by
        rw [parse, hread]
        rfl
      refine iff_of_true ?_ ⟨fault, hparse, fun c => ?_⟩
      · rintro ⟨t, a, ht, ha⟩
        cases hread.symm.trans (Address.parse_eq_ok_iff.mpr ⟨t, ht, ha⟩)
      · rw [Config.bootstrap, hparse]

end Endpoint

end ClusterTransport

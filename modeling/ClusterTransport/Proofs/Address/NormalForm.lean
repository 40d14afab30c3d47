import ClusterTransport.Proofs.Address

/-!
# Addresses written anew

The address of an endpoint that was read is its normal form: it is read as the same endpoint,
unless the host was read in brackets that are not written again, or is written in brackets although
it holds one.
-/

namespace ClusterTransport

namespace Address

open Text

variable {t : List Char} {a : Address}

/-- The forms of an address whose host cannot be written in the form that addresses have. -/
inductive Falters : List Char → Prop where
  /-- A host without colons is written without the brackets that hid its first character. -/
  | unbracketed {host rest : List Char} (hhost : ']' ∉ host) (hcolon : ':' ∉ host)
      (hfirst : ∃ c ∈ host.head?, c = '[' ∨ isBlank c = true) :
      Falters ('[' :: (host ++ ']' :: rest))
  /-- A host with colons that was read without brackets is written in brackets. -/
  | bracketed {host : List Char} (hfirst : host.head? ≠ some '[') (hcolons : 2 ≤ host.count ':')
      (hbracket : ']' ∈ host) : Falters host

private theorem falters_bracketed_iff {host rest : List Char} (hhost : ']' ∉ host) :
    Falters ('[' :: (host ++ ']' :: rest)) ↔
      ':' ∉ host ∧ ∃ c ∈ host.head?, c = '[' ∨ isBlank c = true := by
  constructor
  · intro h
    generalize htext : '[' :: (host ++ ']' :: rest) = text at h
    cases h with
    | unbracketed hhost' hcolon hfirst =>
      -- a text has one part in front of its first closing bracket
      have hsplit : splitFirst ']' (host ++ ']' :: rest) = some (host, rest) :=
        splitFirst_append hhost
      rw [(List.cons.inj htext).2, splitFirst_append hhost'] at hsplit
      cases hsplit
      exact ⟨hcolon, hfirst⟩
    | bracketed hfirst => exact absurd (htext ▸ rfl) hfirst
  · rintro ⟨hcolon, hfirst⟩
    exact .unbracketed hhost hcolon hfirst

private theorem falters_bare_iff (hfirst : t.head? ≠ some '[') :
    Falters t ↔ 2 ≤ t.count ':' ∧ ']' ∈ t := by
  constructor
  · intro h
    cases h with
    | unbracketed => exact absurd rfl hfirst
    | bracketed _ hcolons hbracket => exact ⟨hcolons, hbracket⟩
  · rintro ⟨hcolons, hbracket⟩
    exact .bracketed hfirst hcolons hbracket

private theorem isLegible_bracketed_iff {host rest : List Char} (hhost : ']' ∉ host) :
    IsLegible host ↔ ¬ Falters ('[' :: (host ++ ']' :: rest)) := by
  rw [falters_bracketed_iff hhost]
  unfold IsLegible
  by_cases hcolon : ':' ∈ host
  · simp [hcolon, hhost]
  · simp [hcolon, not_or]

/-- Of the texts that spell an address, those falter whose host is not legible. -/
theorem Spells.isLegible_iff (h : Spells t a) (hblank : ∀ c ∈ t.head?, isBlank c = false) :
    IsLegible a.host.toList ↔ ¬ Falters t := by
  cases h with
  | bracketed hhost =>
    rw [String.toList_ofList]
    exact isLegible_bracketed_iff hhost
  | bracketedWithPort hhost =>
    rw [String.toList_ofList]
    exact isLegible_bracketed_iff hhost
  | bare _ hfirst hcolons =>
    rw [String.toList_ofList, falters_bare_iff hfirst]
    unfold IsLegible
    split
    next hcolon =>
      have hmany : 2 ≤ t.count ':' := by
        have hsome : 0 < t.count ':' := List.count_pos_iff.mpr hcolon
        omega
      simp [hmany]
    next hcolon =>
      refine iff_of_true (fun c hc => ⟨?_, hblank c hc⟩) ?_
      · rintro rfl
        exact hfirst hc
      · simp [List.count_eq_zero.mpr hcolon]
  | @bareWithPort host digits port hfirst hhost hport =>
    have hone : (host ++ ':' :: digits).count ':' = 1 := by
      rw [count_append_colon hhost, List.count_eq_zero.mpr (colon_not_mem_of_isPort hport)]
    rw [String.toList_ofList, falters_bare_iff hfirst, hone]
    unfold IsLegible
    rw [if_neg hhost]
    refine iff_of_true (fun c hc => ?_) (by simp)
    have hhead : c ∈ (host ++ ':' :: digits).head? := by
      rw [List.head?_append, Option.mem_def.mp hc]
      rfl
    refine ⟨?_, hblank c hhead⟩
    rintro rfl
    exact hfirst hhead

private theorem parse_render_eq_iff : parse a.render = .ok a ↔ IsLegible a.host.toList := by
  constructor
  · intro h
    obtain ⟨t, htrim, hspells⟩ := parse_eq_ok_iff.mp h
    exact isLegible_of_spells htrim hspells
  · exact parse_render

end Address

namespace Endpoint

open Text

variable {s : String} {e : Endpoint}

private theorem exists_parse_address_same_iff :
    (∃ r, parse e.address = .ok r ∧ r.same e = true) ↔ Address.IsLegible e.host.toList := by
  rw [← Address.parse_render_eq_iff]
  constructor
  · rintro ⟨r, hparse, hsame⟩
    obtain ⟨a, hread, rfl⟩ := map_eq_ok_iff.mp hparse
    have hself : a = e.toAddress := same_iff.mp hsame
    rw [hself] at hread
    exact hread
  · intro hread
    exact ⟨ofAddress e.toAddress, map_eq_ok_iff.mpr ⟨_, hread, rfl⟩, same_iff.mpr rfl⟩

/-- An endpoint that was read is read again from its address, and as the same endpoint, if and only
if its text, apart from white space around it, is neither a host without colons in brackets that
starts with an opening bracket or white space, nor a host without brackets around it that holds two
colons and a closing bracket. -/
theorem parse_address_of_parse_iff (h : parse s = .ok e) :
    (∃ r, parse e.address = .ok r ∧ r.same e = true) ↔ ¬ Address.Falters (trim s.toList) := by
  obtain ⟨a, hread, rfl⟩ := map_eq_ok_iff.mp h
  obtain ⟨t, htrim, hspells⟩ := Address.parse_eq_ok_iff.mp hread
  rw [exists_parse_address_same_iff, trim_of_trimmed htrim]
  exact hspells.isLegible_iff htrim.first

/-- A host with colons is read again from an address in brackets. -/
theorem parse_address_of_parse_iff_ipv6 :
    ∃ e, parse " fe80::1 " = .ok e ∧ e.address = "[fe80::1]:2135" ∧
      ∃ r, parse e.address = .ok r ∧ r.same e = true := by
  have hread : parse " fe80::1 " = .ok (ofAddress ⟨"fe80::1", 2135⟩) := rfl
  refine ⟨_, hread, by decide +kernel, (parse_address_of_parse_iff hread).mpr ?_⟩
  have htrim : trim " fe80::1 ".toList = "fe80::1".toList := by decide +kernel
  rw [htrim, Address.falters_bare_iff (by decide)]
  decide

/-- A host in brackets that starts with one of them is not read again. -/
theorem parse_address_of_bracket :
    ¬ ∀ s e, parse s = .ok e → ∃ r, parse e.address = .ok r ∧ r.same e = true := by
  intro hall
  have hread : parse "[[a]" = .ok (ofAddress ⟨"[a", 2135⟩) := rfl
  have hagain : parse "[a:2135" = .error (.unreadable "[a:2135") := rfl
  have haddress : (ofAddress ⟨"[a", 2135⟩).address = "[a:2135" := by decide +kernel
  obtain ⟨r, hr, _⟩ := hall _ _ hread
  rw [haddress, hagain] at hr
  cases hr

end Endpoint

end ClusterTransport

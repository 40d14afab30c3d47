import ClusterTransport.Channel.ServerName
import ClusterTransport.Proofs.Channel.Authority
import ClusterTransport.Proofs.Url.Ipv6

/-!
# The characters of server names

What a server can be certified under holds letters, digits and a few marks, so it can be named in an
authority.
-/

namespace ClusterTransport

open Text

namespace Url.Ipv6

def isMark (c : Char) : Bool :=
  (Numeral.hexDigit? c).isSome || c == ':' || c == '.'

private theorem isMark_of_digit? {c : Char} {d : Nat} (h : Numeral.digit? c = some d) :
    isMark c = true := by
  unfold Numeral.digit? at h
  split at h
  next hrange => simp [isMark, Numeral.hexDigit?, hrange]
  next => cases h

private theorem isMark_of_hexDigit? {c : Char} {d : Nat} (h : Numeral.hexDigit? c = some d) :
    isMark c = true := by
  simp [isMark, h]

private theorem isMark_of_takeOctet {value : Option Nat} {s rest : List Char} {v : Nat}
    (h : takeOctet value s = some (v, rest)) (hrest : ∀ c ∈ rest, isMark c = true) :
    ∀ c ∈ s, isMark c = true := by
  fun_induction takeOctet value s with
  | case1 value => simp
  | case2 value c s hc =>
    obtain ⟨_, _, heq⟩ := Option.map_eq_some_iff.mp h
    cases heq
    exact hrest
  | case3 c s d hd ih => exact List.forall_mem_cons.mpr ⟨isMark_of_digit? hd, ih h⟩
  | case4 c s d hd => cases h
  | case5 c s d hd v hv hlt => cases h
  | case6 c s d hd v hv hle ih => exact List.forall_mem_cons.mpr ⟨isMark_of_digit? hd, ih h⟩

private theorem isMark_of_dotted {n : Nat} {s : List Char} {vs : List Nat}
    (h : dotted n s = some vs) :
    ∀ c ∈ s, isMark c = true := by
  fun_induction dotted n s generalizing vs with
  | case1 => simp
  | case2 => cases h
  | case3 => cases h
  | case4 s v hv => exact isMark_of_takeOctet hv (by simp)
  | case5 s v n rest hv ih =>
    obtain ⟨ws, hws, _⟩ := Option.map_eq_some_iff.mp h
    exact isMark_of_takeOctet hv (List.forall_mem_cons.mpr ⟨rfl, ih hws⟩)
  | case6 => cases h

private theorem isMark_of_dottedPieces {s : List Char} {ps : List Nat}
    (h : dottedPieces s = some ps) :
    ∀ c ∈ s, isMark c = true := by
  unfold dottedPieces at h
  split at h
  next hdotted => exact isMark_of_dotted hdotted
  next => cases h

private theorem isMark_of_takeHex (n value count : Nat) (s : List Char)
    (hrest : ∀ c ∈ (takeHex n value count s).2.2, isMark c = true) :
    ∀ c ∈ s, isMark c = true := by
  induction n generalizing value count s with
  | zero => exact hrest
  | succ n ih =>
    cases s with
    | nil => simp
    | cons c s =>
      rw [takeHex] at hrest
      split at hrest
      next d hd => exact List.forall_mem_cons.mpr ⟨isMark_of_hexDigit? hd, ih _ _ s hrest⟩
      next => exact hrest

private theorem isMark_of_readPieces {pieces : List Nat} {gap : Option Nat} {s : List Char}
    {r : List Nat × Option Nat} (h : readPieces pieces gap s = some r) :
    ∀ c ∈ s, isMark c = true := by
  fun_induction readPieces pieces gap s with
  | case1 => simp
  | case4 pieces rest hne ih => exact List.forall_mem_cons.mpr ⟨rfl, ih h⟩
  | case5 pieces gap c rest hne hc value count htake =>
    exact isMark_of_takeHex 4 0 0 _ (by simp [htake])
  | case7 pieces gap c rest hne hc value count rest' hroom htake =>
    obtain ⟨ps, hps, _⟩ := Option.map_eq_some_iff.mp h
    exact isMark_of_dottedPieces hps
  | case9 pieces gap c rest hne hc value count rest' hrest htake hd ih =>
    refine isMark_of_takeHex 4 0 0 _ ?_
    rw [htake]
    exact List.forall_mem_cons.mpr ⟨rfl, ih h⟩
  | _ => cases h

private theorem isMark_of_read {s : List Char} {pieces : List Nat} (h : read s = some pieces) :
    ∀ c ∈ s, isMark c = true := by
  unfold read at h
  split at h
  next rest =>
    obtain ⟨r, hr, _⟩ := Option.bind_eq_some_iff.mp h
    exact List.forall_mem_cons.mpr ⟨rfl, List.forall_mem_cons.mpr ⟨rfl, isMark_of_readPieces hr⟩⟩
  next => cases h
  next => cases h
  next => cases h
  next =>
    obtain ⟨r, hr, _⟩ := Option.bind_eq_some_iff.mp h
    exact isMark_of_readPieces hr

end Url.Ipv6

private theorem Text.mem_splitAll {separator c : Char} {s : List Char} (h : c ∈ s)
    (hc : c ≠ separator) :
    ∃ piece ∈ splitAll separator s, c ∈ piece := by
  fun_induction splitAll separator s with
  | case1 => cases h
  | case2 s ih =>
    have hmem : c ∈ s := (List.mem_cons.mp h).resolve_left hc
    obtain ⟨piece, hpiece, hin⟩ := ih hmem
    exact ⟨piece, List.mem_cons_of_mem _ hpiece, hin⟩
  | case3 d s hd hnil ih =>
    rcases List.mem_cons.mp h with rfl | hmem
    · exact ⟨_, List.mem_singleton_self _, List.mem_singleton_self _⟩
    · obtain ⟨piece, hpiece, _⟩ := ih hmem
      rw [hnil] at hpiece
      cases hpiece
  | case4 d s hd first pieces hpieces ih =>
    rcases List.mem_cons.mp h with rfl | hmem
    · exact ⟨_, List.mem_cons_self, List.mem_cons_self⟩
    · obtain ⟨piece, hpiece, hin⟩ := ih hmem
      rw [hpieces] at hpiece
      rcases List.mem_cons.mp hpiece with rfl | hpiece
      · exact ⟨_, List.mem_cons_self, List.mem_cons_of_mem _ hin⟩
      · exact ⟨piece, List.mem_cons_of_mem _ hpiece, hin⟩

namespace ServerName

def mayHold (c : Char) : Bool :=
  isEdge c || c == '-' || c == '.' || c == ':'

private theorem mayHold_of_hexDigit? {c : Char} {d : Nat} (h : Numeral.hexDigit? c = some d) :
    mayHold c = true := by
  unfold Numeral.hexDigit? at h
  split at h
  next hdigit => simp [mayHold, isEdge, isDigit, hdigit]
  next =>
    split at h
    next hlower =>
      have hz : c ≤ 'z' := Char.le_trans hlower.2 (by decide)
      simp [mayHold, isEdge, hlower.1, hz]
    next =>
      split at h
      next hupper =>
        have hz : c ≤ 'Z' := Char.le_trans hupper.2 (by decide)
        simp [mayHold, isEdge, hupper.1, hz]
      next => cases h

private theorem mayHold_of_isMark {c : Char} (h : Url.Ipv6.isMark c = true) : mayHold c = true := by
  simp only [Url.Ipv6.isMark, Bool.or_eq_true, beq_iff_eq, Option.isSome_iff_exists] at h
  rcases h with (⟨d, hd⟩ | rfl) | rfl
  · exact mayHold_of_hexDigit? hd
  · decide
  · decide

private theorem mayHold_of_areLabels {labels : List (List Char)} (h : areLabels labels = true) :
    ∀ label ∈ labels, ∀ c ∈ label, mayHold c = true := by
  intro label hlabel c hc
  simp only [areLabels, Bool.and_eq_true, List.all_eq_true] at h
  have hparts := h.1 label hlabel
  simp only [isLabel, Bool.and_eq_true, List.all_eq_true] at hparts
  have hpart := hparts.1.1.1 c hc
  rw [mayHold, hpart, Bool.true_or, Bool.true_or]

private theorem mayHold_of_isDomain {s : List Char} (h : isDomain s = true) :
    ∀ c ∈ s, mayHold c = true := by
  intro c hc
  by_cases hdot : c = '.'
  · subst hdot
    rfl
  · obtain ⟨label, hlabel, hmem⟩ := mem_splitAll hc hdot
    simp only [isDomain, Bool.and_eq_true, Bool.or_eq_true, beq_iff_eq] at h
    obtain hlabels | ⟨hlast, hlabels⟩ := h.2
    · exact mayHold_of_areLabels hlabels label hlabel c hmem
    · -- the empty label behind the final dot holds no character
      obtain ⟨front, hfront⟩ := List.getLast?_eq_some_iff.mp hlast
      rw [hfront, List.mem_append, List.mem_singleton] at hlabel
      rw [hfront, List.dropLast_concat] at hlabels
      rcases hlabel with hlabel | rfl
      · exact mayHold_of_areLabels hlabels label hlabel c hmem
      · cases hmem

/-- What a server can be certified under holds only letters, digits, hyphens, underscores, dots and
colons. -/
theorem mayHold_of_isValid {s : String} (h : isValid s = true) :
    ∀ c ∈ s.toList, mayHold c = true := by
  simp only [isValid, Bool.or_eq_true, Option.isSome_iff_exists] at h
  obtain (hdomain | ⟨vs, hdotted⟩) | ⟨pieces, hread⟩ := h
  · exact mayHold_of_isDomain hdomain
  · exact fun c hc => mayHold_of_isMark (Url.Ipv6.isMark_of_dotted hdotted c hc)
  · exact fun c hc => mayHold_of_isMark (Url.Ipv6.isMark_of_read hread c hc)

theorem isPlainHost_of_isValid {s : String} (h : isValid s = true) :
    Authority.IsPlainHost s.toList := by
  have hout (d : Char) (hd : mayHold d = false) : d ∉ s.toList := by
    intro hmem
    rw [mayHold_of_isValid h d hmem] at hd
    cases hd
  refine ⟨fun c hc => ?_, fun hfirst => hout '[' rfl (List.mem_of_head? hfirst)⟩
  have hne (d : Char) (hd : mayHold d = false) : c ≠ d := ne_of_mem_of_not_mem hc (hout d hd)
  simp [Authority.isEnd, hne '/' rfl, hne '?' rfl, hne '#' rfl, hne '@' rfl]

end ServerName

end ClusterTransport

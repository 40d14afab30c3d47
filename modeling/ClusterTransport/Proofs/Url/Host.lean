import ClusterTransport.Proofs.Address
import ClusterTransport.Proofs.Url.Ipv6
import ClusterTransport.Url.Web

/-!
# Hosts of URLs

The name of a host holds no white space and none of the characters that set off other parts of an
authority, since what is not forbidden in it is percent-encoded; any other host is an IPv6 address.
-/

namespace ClusterTransport.Url

open Text

private theorem upperHexDigit_range (n : Nat) (hn : n < 16) :
    let c := Numeral.upperHexDigit n
    isBlank c = false ∧ forbiddenInHost c = false := by
  decide +revert

theorem Percent.byte_forall {P : Char → Prop} (hpercent : P '%')
    (hdigit : ∀ n < 16, P (Numeral.upperHexDigit n)) (b : UInt8) : ∀ c ∈ byte b, P c := by
  have hb := b.toNat_lt
  simp only [byte, List.forall_mem_cons, List.not_mem_nil, false_imp_iff, implies_true, and_true]
  exact ⟨hpercent, hdigit _ (by omega), hdigit _ (by omega)⟩

private theorem Percent.encode_forall {P : Char → Prop} {reserved : Char → Bool} {s : List Char}
    (hpercent : P '%') (hdigit : ∀ n < 16, P (Numeral.upperHexDigit n))
    (hkept : ∀ c ∈ s, c.toNat < 0x80 → reserved c = false → P c) :
    ∀ c ∈ encode reserved s, P c := by
  intro d hd
  obtain ⟨c, hc, hd⟩ := List.mem_flatMap.mp hd
  unfold encodeChar at hd
  split at hd
  next hplain =>
    obtain rfl := List.mem_singleton.mp hd
    exact hkept d hc hplain.1 hplain.2
  next =>
    obtain ⟨b, _, hd⟩ := List.mem_flatMap.mp hd
    exact byte_forall hpercent hdigit b d hd

private theorem isBlank_of_isControl {c : Char} (hascii : c.toNat < 0x80)
    (hcontrol : Percent.isControl c = false) (hspace : c ≠ ' ') : isBlank c = false := by
  have hne : c.toNat ≠ 0x20 := fun h => hspace (Char.toNat_inj.mp h)
  simp only [Percent.isControl, Bool.or_eq_false_iff, decide_eq_false_iff_not] at hcontrol
  simp [isBlank, blankRanges]
  omega

/-- A name without white space and without what sets off other parts of an authority, or an IPv6
address. -/
def Host.IsSound : Host → Prop
  | .name text => ∀ c ∈ text.toList, isBlank c = false ∧ forbiddenInHost c = false
  | .ipv6 pieces => Ipv6.IsAddress pieces

private theorem isSound_of_readBracketed {s : List Char} {host : Host}
    (h : readBracketed s = .ok host) : host.IsSound := by
  unfold readBracketed at h
  split at h
  next =>
    split at h
    next pieces hpieces =>
      cases h
      exact Ipv6.isAddress_of_read hpieces
    next => cases h
  next => cases h

private theorem isSound_of_readHost {s : List Char} {host : Host}
    (h : readHost s = .ok (some host)) :
    host.IsSound := by
  unfold readHost at h
  split at h
  next => cases h
  next inner =>
    obtain ⟨r, hread, hr⟩ := map_eq_ok_iff.mp h
    cases hr
    exact isSound_of_readBracketed hread
  next s _ _ =>
    split at h
    next => cases h
    next hany =>
      cases h
      rw [Bool.not_eq_true, List.any_eq_false] at hany
      rw [Host.IsSound, String.toList_ofList]
      refine Percent.encode_forall (by decide) upperHexDigit_range fun c hc hascii hcontrol => ?_
      have hallowed : forbiddenInHost c = false := Bool.eq_false_iff.mpr (hany c hc)
      have hspace : c ≠ ' ' := by
        rintro rfl
        exact absurd hallowed (by decide)
      exact ⟨isBlank_of_isControl hascii hcontrol hspace, hallowed⟩

private theorem readAuthority_ok {scheme : String} {s : List Char} {url : Url}
    (h : readAuthority scheme s = .ok url) :
    url.scheme = scheme ∧ ∃ text, readHost text = .ok url.host := by
  unfold readAuthority at h
  dsimp only at h
  split at h
  next => cases h
  next =>
    obtain ⟨host, hhost, h⟩ := bind_eq_ok h
    split at h
    next => cases h
    next =>
      obtain ⟨r, _, h⟩ := bind_eq_ok h
      split at h
      next => cases h
      next =>
        cases h
        exact ⟨rfl, _, hhost⟩

private theorem isSound_of_readPlain {scheme : String} {s : List Char} {url : Url} {host : Host}
    (h : readPlain scheme s = .ok url) (hhost : url.host = some host) : host.IsSound := by
  unfold readPlain at h
  split at h
  next rest =>
    obtain ⟨_, text, hread⟩ := readAuthority_ok h
    exact isSound_of_readHost (hhost ▸ hread)
  next =>
    cases h
    cases hhost

/-- The host of every URL is sound. -/
theorem isSound_of_parse {s : String} {url : Url} {host : Host} (h : Url.parse s = .ok url)
    (hhost : url.host = some host) : host.IsSound := by
  unfold Url.parse at h
  split at h
  next => cases h
  next scheme rest hscheme =>
    split at h
    next =>
      obtain ⟨_, _, rfl⟩ := map_eq_ok_iff.mp h
      cases hhost
    next =>
      split at h
      next =>
        obtain ⟨_, _, rfl⟩ := map_eq_ok_iff.mp h
        cases hhost
      next => exact isSound_of_readPlain h hhost

theorem Ipv6.ne_bracket_of_mem_write {pieces : List Nat} {c : Char} (h : c ∈ write pieces) :
    c ≠ '[' ∧ c ≠ ']' := by
  constructor <;> rintro rfl <;> exact absurd (mem_write h) (by decide)

theorem Host.IsSound.mem_name {text : String} {c : Char} (h : (Host.name text).IsSound)
    (hc : c ∈ text.toList) : isBlank c = false ∧ c ≠ ':' ∧ c ≠ '[' ∧ c ≠ ']' := by
  obtain ⟨hblank, hallowed⟩ := h c hc
  refine ⟨hblank, ?_, ?_, ?_⟩ <;> rintro rfl <;> exact absurd hallowed (by decide)

theorem Host.IsSound.isLegible_text {host : Host} (h : host.IsSound) :
    Address.IsLegible host.text.toList := by
  unfold Address.IsLegible
  cases host with
  | name text =>
    change if ':' ∈ text.toList then _ else ∀ c ∈ text.toList.head?, _
    rw [if_neg fun hcolon => (h.mem_name hcolon).2.1 rfl]
    intro c hc
    obtain ⟨hblank, _, hopening, _⟩ := h.mem_name (List.mem_of_mem_head? hc)
    exact ⟨hopening, hblank⟩
  | ipv6 pieces =>
    rw [Host.text, String.toList_ofList, if_pos (Ipv6.colon_mem_write h)]
    exact fun hmem => (Ipv6.ne_bracket_of_mem_write hmem).2 rfl

end ClusterTransport.Url

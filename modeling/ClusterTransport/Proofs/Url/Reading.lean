import ClusterTransport.Proofs.Address
import ClusterTransport.Proofs.Text.Pieces
import ClusterTransport.Proofs.Url.Host
import Mathlib.Data.Bool.AllAny
import Mathlib.Data.List.TakeWhile

/-!
# Reading written URLs

What a URL is read as whose parts are known: a host of plain characters, a port or none, and a path
with a query or without one.
-/

namespace ClusterTransport.Url

open Text

theorem clean_eq_dropEndWhile {s : List Char} (hfirst : ∀ c ∈ s.head?, c ≠ ' ')
    (h : ∀ c ∈ s, 0x20 ≤ c.toNat) : clean s = dropEndWhile (· == ' ') s := by
  have hspace (c : Char) (hc : c ∈ s) : decide (c.toNat ≤ 0x20) = (c == ' ') := by
    have hge := h c hc
    rw [Bool.eq_iff_iff, decide_eq_true_iff, beq_iff_eq, ← Char.toNat_inj]
    exact ⟨fun hle => Nat.le_antisymm hle hge, fun heq => heq ▸ Nat.le_refl _⟩
  have hfront : s.dropWhile (fun c => decide (c.toNat ≤ 0x20)) = s := by
    refine dropWhile_eq_self fun c hc => ?_
    rw [hspace c (List.mem_of_mem_head? hc)]
    exact beq_false_of_ne (hfirst c hc)
  have hback : s.reverse.dropWhile (fun c => decide (c.toNat ≤ 0x20)) =
      s.reverse.dropWhile (· == ' ') :=
    dropWhile_congr fun c hc => hspace c (List.mem_reverse.mp hc)
  change ((s.dropWhile _).reverse.dropWhile _).reverse.filter _ = _
  rw [hfront, hback]
  refine List.filter_eq_self.mpr fun c hc => ?_
  have hge := h c (mem_of_mem_dropEndWhile hc)
  simp only [Bool.not_eq_true', Bool.or_eq_false_iff, beq_eq_false_iff_ne, ne_eq]
  refine ⟨⟨?_, ?_⟩, ?_⟩ <;> rintro rfl <;> exact absurd hge (by decide)

theorem clean_eq_self {s : List Char} (h : ∀ c ∈ s, 0x20 < c.toNat) : clean s = s := by
  have hspace : ∀ c ∈ s, c ≠ ' ' := by
    rintro c hc rfl
    exact absurd (h ' ' hc) (by decide)
  rw [clean_eq_dropEndWhile (fun c hc => hspace c (List.mem_of_mem_head? hc))
    fun c hc => Nat.le_of_lt (h c hc)]
  exact dropEndWhile_eq_self fun c hc => beq_false_of_ne (hspace c (List.mem_of_getLast? hc))

private theorem Percent.encodeChar_of_plain {reserved : Char → Bool} {c : Char}
    (h : c.toNat < 0x80 ∧ reserved c = false) : encodeChar reserved c = [c] :=
  if_pos h

private theorem Percent.length_encodeChar {reserved : Char → Bool} {c : Char}
    (h : ¬(c.toNat < 0x80 ∧ reserved c = false)) : 3 ≤ (encodeChar reserved c).length := by
  have hbytes : 0 < (String.utf8EncodeChar c).length := by
    rw [String.length_utf8EncodeChar]
    exact c.utf8Size_pos
  obtain ⟨b, bytes, hb⟩ := List.exists_cons_of_length_pos hbytes
  rw [encodeChar, if_neg h, hb, List.flatMap_cons, List.length_append]
  exact Nat.le_add_right 3 _

theorem Percent.length_le_encode (reserved : Char → Bool) (s : List Char) :
    s.length ≤ (encode reserved s).length := by
  induction s with
  | nil => exact Nat.le_refl 0
  | cons c s ih =>
    rw [encode, List.flatMap_cons, List.length_append, List.length_cons]
    change _ ≤ (encodeChar reserved c).length + (encode reserved s).length
    by_cases h : c.toNat < 0x80 ∧ reserved c = false
    · rw [encodeChar_of_plain h, List.length_singleton]
      omega
    · have hlength := length_encodeChar h
      omega

/-- Text is encoded as itself if and only if it is ASCII and holds nothing reserved. -/
theorem Percent.encode_eq_self_iff {reserved : Char → Bool} {s : List Char} :
    encode reserved s = s ↔ ∀ c ∈ s, c.toNat < 0x80 ∧ reserved c = false := by
  induction s with
  | nil => simp [encode]
  | cons c s ih =>
    rw [List.forall_mem_cons, ← ih]
    change encodeChar reserved c ++ encode reserved s = c :: s ↔ _
    by_cases h : c.toNat < 0x80 ∧ reserved c = false
    · rw [encodeChar_of_plain h, List.singleton_append, List.cons_inj_right]
      exact ⟨fun heq => ⟨h, heq⟩, fun heq => heq.2⟩
    · refine iff_of_false (fun heq => ?_) fun heq => h heq.1
      -- An encoded character takes more room than it had.
      have hlength := congrArg List.length heq
      rw [List.length_append, List.length_cons] at hlength
      have hfirst := length_encodeChar h
      have hrest := length_le_encode reserved s
      omega

def isPlainInHost (c : Char) : Bool :=
  decide (c.toNat < 0x80) && !Percent.isControl c && !forbiddenInHost c

def writtenPort : Option UInt16 → List Char
  | none => []
  | some port => ':' :: Address.portText port

private theorem isPlainInHost_iff {c : Char} :
    isPlainInHost c = true ↔
      (c.toNat < 0x80 ∧ Percent.isControl c = false) ∧ forbiddenInHost c = false := by
  simp [isPlainInHost]

theorem isPlainInHost_ne {c : Char} (h : isPlainInHost c = true) :
    c ≠ ':' ∧ c ≠ '/' ∧ c ≠ '?' ∧ c ≠ '#' ∧ c ≠ '[' ∧ c ≠ ']' ∧ c ≠ '@' := by
  refine ⟨?_, ?_, ?_, ?_, ?_, ?_, ?_⟩ <;> rintro rfl <;> exact absurd h (by decide)

private theorem range_of_isAlphanum {c : Char} (h : c.isAlphanum = true) :
    (65 ≤ c.toNat ∧ c.toNat ≤ 90 ∨ 97 ≤ c.toNat ∧ c.toNat ≤ 122) ∨
      48 ≤ c.toNat ∧ c.toNat ≤ 57 := by
  have hbounds (low high : Char)
      (hc : (decide (low.val ≤ c.val) && decide (c.val ≤ high.val)) = true) :
      low.toNat ≤ c.toNat ∧ c.toNat ≤ high.toNat :=
    ((Bool.and_eq_true _ _).mp hc).imp of_decide_eq_true of_decide_eq_true
  refine ((Bool.or_eq_true _ _).mp h).imp (fun halpha => ?_) fun hdigit => ?_
  · refine ((Bool.or_eq_true _ _).mp halpha).imp (fun hupper => ?_) fun hlower => ?_
    · exact of_decide_eq_true hupper
    · exact hbounds 'a' 'z' hlower
  · exact hbounds '0' '9' hdigit

theorem isPlainInHost_of_isAlphanum {c : Char} (h : c.isAlphanum = true ∨ c = '-' ∨ c = '.') :
    isPlainInHost c = true := by
  rcases h with halnum | rfl | rfl
  · have hrange := range_of_isAlphanum halnum
    have hallowed : forbiddenInHost c = false := by
      rw [Bool.eq_false_iff]
      intro hforbidden
      simp only [forbiddenInHost, List.contains_eq_mem, decide_eq_true_eq, List.mem_cons,
        List.not_mem_nil, or_false] at hforbidden
      rcases hforbidden with rfl | rfl | rfl | rfl | rfl | rfl | rfl | rfl | rfl | rfl | rfl | rfl |
        rfl | rfl | rfl | rfl | rfl <;> exact absurd halnum (by decide)
    have hcontrol : Percent.isControl c = false := by
      simp only [Percent.isControl, Bool.or_eq_false_iff, decide_eq_false_iff_not,
        beq_eq_false_iff_ne]
      omega
    exact isPlainInHost_iff.mpr ⟨⟨by omega, hcontrol⟩, hallowed⟩
  · decide
  · decide

theorem isPlainInHost_gt {c : Char} (h : isPlainInHost c = true) : 0x20 < c.toNat := by
  obtain ⟨⟨_, hcontrol⟩, hallowed⟩ := isPlainInHost_iff.mp h
  have hspace : c.toNat ≠ 0x20 := by
    intro heq
    obtain rfl : c = ' ' := Char.toNat_inj.mp heq
    exact absurd hallowed (by decide)
  simp only [Percent.isControl, Bool.or_eq_false_iff, decide_eq_false_iff_not] at hcontrol
  omega

private theorem endsAuthority_eq_false {c : Char} (h : c ≠ '/' ∧ c ≠ '?' ∧ c ≠ '#') :
    endsAuthority false c = false := by
  simp [endsAuthority, h]

private theorem splitHost_append {host rest : List Char}
    (hhost : ∀ c ∈ host, isPlainInHost c = true)
    (hrest : rest.head?.all (fun c => c == ':' || c == '/') = true) :
    splitHost false false (host ++ rest) = (host, rest) := by
  induction host with
  | nil =>
    cases rest with
    | nil => rfl
    | cons c rest =>
      rw [List.head?_cons, Option.all_some, Bool.or_eq_true, beq_iff_eq, beq_iff_eq] at hrest
      rcases hrest with rfl | rfl <;> rfl
  | cons c host ih =>
    rw [List.forall_mem_cons] at hhost
    obtain ⟨hcolon, hslash, hquestion, hhash, hopening, hclosing, _⟩ := isPlainInHost_ne hhost.1
    have hstays : ¬((c == ':' && !false) = true ∨ endsAuthority false c = true) := by
      simp [hcolon, endsAuthority_eq_false ⟨hslash, hquestion, hhash⟩]
    rw [List.cons_append, splitHost]
    simp only [Bool.or_eq_true, hstays, if_false, beq_iff_eq, hopening, hclosing, ih hhost.2]

private theorem readHost_eq_name {host : List Char} (hne : host ≠ [])
    (hhost : ∀ c ∈ host, isPlainInHost c = true) :
    readHost host = .ok (some (.name (String.ofList host))) := by
  have hallowed : ¬host.any forbiddenInHost = true := by
    rw [List.any_eq_true]
    rintro ⟨c, hc, hforbidden⟩
    rw [(isPlainInHost_iff.mp (hhost c hc)).2] at hforbidden
    cases hforbidden
  have hencode : Percent.encode Percent.isControl host = host :=
    Percent.encode_eq_self_iff.mpr fun c hc => (isPlainInHost_iff.mp (hhost c hc)).1
  cases host with
  | nil => exact absurd rfl hne
  | cons c host =>
    have hopening : c ≠ '[' := (isPlainInHost_ne (hhost c (.head _))).2.2.2.2.1
    rw [readHost, if_neg hallowed, hencode]
    · simp
    · simp [hopening]

private theorem readPort_append {digits rest : List Char} {v n : Nat} {beyond : Numeral.Fault}
    (h : Numeral.readDigits 65535 beyond v digits = .ok n) :
    readPort (some v) (digits ++ rest) = readPort (some n) rest := by
  induction digits generalizing v with
  | nil =>
    cases h
    rfl
  | cons c digits ih =>
    rw [Numeral.readDigits] at h
    rw [List.cons_append, readPort]
    cases hd : Numeral.digit? c with
    | none =>
      rw [hd] at h
      cases h
    | some d =>
      rw [hd] at h
      dsimp only at h ⊢
      split at h
      next => cases h
      next hle =>
        rw [Option.getD_some, if_neg hle]
        exact ih h

private theorem readPort_none_eq {c : Char} {s : List Char} (h : (Numeral.digit? c).isSome = true) :
    readPort none (c :: s) = readPort (some 0) (c :: s) := by
  obtain ⟨d, hd⟩ := Option.isSome_iff_exists.mp h
  rw [readPort, readPort, hd]
  rfl

private theorem readPort_portText (port : UInt16) (path : List Char) :
    readPort none (Address.portText port ++ '/' :: path) = .ok (some port, '/' :: path) := by
  have hread : Numeral.readDigits 65535 .tooLarge 0 (Address.portText port) = .ok port.toNat :=
    Numeral.readDigits_toDigits (Nat.le_of_lt_succ port.toNat_lt)
  have hend : readPort (some port.toNat) ('/' :: path) = .ok (some port, '/' :: path) := by
    rw [readPort, show Numeral.digit? '/' = none from rfl]
    simp [endsAuthority]
  obtain ⟨c, digits, hdigits⟩ := List.exists_cons_of_ne_nil
    (show Address.portText port ≠ [] from Nat.toDigits_ne_nil)
  have hfirst : (Numeral.digit? c).isSome = true := by
    rw [hdigits, Numeral.readDigits] at hread
    cases hd : Numeral.digit? c with
    | none =>
      rw [hd] at hread
      cases hread
    | some d => rfl
  rw [hdigits, List.cons_append, readPort_none_eq hfirst, ← List.cons_append, ← hdigits,
    readPort_append hread, hend]

private theorem readPortPart_writtenPort (port : Option UInt16) (path : List Char) :
    readPortPart (writtenPort port ++ '/' :: path) = .ok (port, '/' :: path) := by
  cases port with
  | none => rfl
  | some port => exact readPort_portText port path

private theorem inAuthority_of_mem_writtenPort {port : Option UInt16} {c : Char}
    (h : c ∈ writtenPort port) : endsAuthority false c = false ∧ c ≠ '@' := by
  cases port with
  | none => cases h
  | some port =>
    rcases List.mem_cons.mp h with rfl | hdigit
    · exact ⟨rfl, by decide⟩
    · have hc := Address.isDigit_of_mem_portText hdigit
      refine ⟨endsAuthority_eq_false ⟨?_, ?_, ?_⟩, ?_⟩ <;> rintro rfl <;>
        exact absurd hc (by decide)

theorem gt_of_mem_writtenPort {port : Option UInt16} {c : Char} (h : c ∈ writtenPort port) :
    0x20 < c.toNat := by
  cases port with
  | none => cases h
  | some port =>
    rcases List.mem_cons.mp h with rfl | hdigit
    · decide
    · have hrange := Address.isDigit_of_mem_portText hdigit
      simp only [Char.isDigit, UInt32.le_iff_toNat_le, ge_iff_le, Bool.and_eq_true,
        decide_eq_true_eq] at hrange
      exact Nat.lt_of_lt_of_le (by decide) hrange.1

theorem splitQuery_of_not_mem {path : List Char} (h : ∀ c ∈ path, c ≠ '#' ∧ c ≠ '?') :
    splitQuery path = (path, none) := by
  have hkept : path.takeWhile (· != '#') = path :=
    List.takeWhile_eq_self_iff.mpr fun c hc => bne_iff_ne.mpr (h c hc).1
  have hrest : path.dropWhile (· != '?') = [] :=
    List.dropWhile_eq_nil_iff.mpr fun c hc => bne_iff_ne.mpr (h c hc).2
  simp only [splitQuery, hkept, hrest]

theorem splitQuery_append {path query : List Char} (hpath : ∀ c ∈ path, c ≠ '#' ∧ c ≠ '?')
    (hquery : '#' ∉ query) : splitQuery (path ++ '?' :: query) = (path, some query) := by
  have hkept : (path ++ '?' :: query).takeWhile (· != '#') = path ++ '?' :: query := by
    refine List.takeWhile_eq_self_iff.mpr fun c hc => bne_iff_ne.mpr ?_
    rintro rfl
    rcases List.mem_append.mp hc with hmem | hmem
    · exact (hpath _ hmem).1 rfl
    · exact hquery (List.mem_of_ne_of_mem (by decide) hmem)
  have hpath' : ∀ c ∈ path, (c != '?') = true := fun c hc => bne_iff_ne.mpr (hpath c hc).2
  simp only [splitQuery, hkept, List.dropWhile_append_of_pos hpath',
    List.takeWhile_append_of_pos hpath']
  simp

/-- The URL of a host, a port or none, and a path with what follows it. -/
theorem readAuthority_append (scheme : String) {host : List Char} (port : Option UInt16)
    (path : List Char) (hne : host ≠ []) (hhost : ∀ c ∈ host, isPlainInHost c = true) :
    readAuthority scheme (host ++ (writtenPort port ++ '/' :: path)) =
      .ok ⟨scheme, some (.name (String.ofList host)), port, readPath (splitQuery ('/' :: path)).1,
        (splitQuery ('/' :: path)).2.map String.ofList⟩ := by
  have hauthority : ∀ c ∈ host ++ writtenPort port, endsAuthority false c = false ∧ c ≠ '@' := by
    intro c hc
    rcases List.mem_append.mp hc with hc | hc
    · obtain ⟨_, hslash, hquestion, hhash, _, _, hat⟩ := isPlainInHost_ne (hhost c hc)
      exact ⟨endsAuthority_eq_false ⟨hslash, hquestion, hhash⟩, hat⟩
    · exact inAuthority_of_mem_writtenPort hc
  have hinside : ∀ c ∈ host ++ writtenPort port, (!endsAuthority false c) = true := fun c hc => by
    rw [(hauthority c hc).1]
    rfl
  have htake : (host ++ (writtenPort port ++ '/' :: path)).takeWhile
      (fun c => !endsAuthority false c) = host ++ writtenPort port := by
    rw [← List.append_assoc, List.takeWhile_append_of_pos hinside]
    simp [endsAuthority]
  have hdrop : (host ++ (writtenPort port ++ '/' :: path)).dropWhile
      (fun c => !endsAuthority false c) = '/' :: path := by
    rw [← List.append_assoc, List.dropWhile_append_of_pos hinside]
    simp [endsAuthority]
  have hcredentials : splitLastAt (host ++ writtenPort port) = none :=
    if_neg fun hat => (hauthority '@' hat).2 rfl
  have hsplit : splitHost false false (host ++ (writtenPort port ++ '/' :: path)) =
      (host, writtenPort port ++ '/' :: path) :=
    splitHost_append hhost (by cases port <;> rfl)
  unfold readAuthority
  simp only [htake, hdrop, hcredentials, Option.elim_none, List.append_assoc, hsplit,
    readHost_eq_name hne hhost, readPortPart_writtenPort]
  rfl

end ClusterTransport.Url

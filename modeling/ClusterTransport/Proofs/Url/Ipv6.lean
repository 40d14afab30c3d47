import ClusterTransport.Proofs.Text.Numeral
import ClusterTransport.Url.Ipv6
import Mathlib.Algebra.Group.Nat.Defs

/-!
# IPv6 addresses read back

Whatever is read as an IPv6 address has eight pieces of sixteen bits, and eight such pieces are read
back from their written form.
-/

namespace ClusterTransport.Url.Ipv6

open Text

/-- Eight pieces of sixteen bits. -/
structure IsAddress (pieces : List Nat) : Prop where
  length : pieces.length = 8
  lt : ∀ p ∈ pieces, p < 65536

/-! ## What is read -/

theorem digit?_lt {c : Char} {d : Nat} (h : Numeral.digit? c = some d) : d < 10 := by
  have hle (a b : Char) : a ≤ b ↔ a.toNat ≤ b.toNat := Iff.rfl
  simp only [Numeral.digit?, hle] at h
  split at h
  · cases h
    simp only [Char.reduceToNat] at *
    omega
  · cases h

private theorem hexDigit?_lt {c : Char} {d : Nat} (h : Numeral.hexDigit? c = some d) : d < 16 := by
  have hle (a b : Char) : a ≤ b ↔ a.toNat ≤ b.toNat := Iff.rfl
  simp only [Numeral.hexDigit?, hle] at h
  repeat' split at h
  all_goals cases h
  all_goals
    simp only [Char.reduceToNat] at *
    omega

private theorem takeHex_lt (n value count : Nat) (s : List Char) :
    (takeHex n value count s).1 < (value + 1) * 16 ^ n := by
  induction n generalizing value count s with
  | zero => simp [takeHex]
  | succ n ih =>
    have hstop : value < (value + 1) * 16 ^ (n + 1) :=
      Nat.lt_of_lt_of_le (Nat.lt_succ_self value)
        (Nat.le_mul_of_pos_right _ (Nat.pow_pos (by decide)))
    cases s with
    | nil => exact hstop
    | cons c s =>
      rw [takeHex]
      split
      next d hd =>
        have hlt := hexDigit?_lt hd
        refine Nat.lt_of_lt_of_le (ih (value * 16 + d) (count + 1) s) ?_
        rw [Nat.pow_succ', ← Nat.mul_assoc]
        exact Nat.mul_le_mul_right _ (by omega)
      next => exact hstop

private theorem takeOctet_le {value : Option Nat} {s : List Char} {r : Nat × List Char}
    (hvalue : ∀ v, value = some v → v ≤ 255) (h : takeOctet value s = some r) : r.1 ≤ 255 := by
  fun_induction takeOctet value s with
  | case1 value =>
    obtain ⟨v, hv, rfl⟩ := Option.map_eq_some_iff.mp h
    exact hvalue v hv
  | case2 value c s hc =>
    obtain ⟨v, hv, rfl⟩ := Option.map_eq_some_iff.mp h
    exact hvalue v hv
  | case3 c s d hd ih =>
    refine ih ?_ h
    rintro v ⟨⟩
    have := digit?_lt hd
    omega
  | case4 c s d hd => cases h
  | case5 c s d hd v hv hlt => cases h
  | case6 c s d hd v hv hle ih =>
    refine ih ?_ h
    rintro v ⟨⟩
    omega

private theorem dotted_cases {n : Nat} {s : List Char} {vs : List Nat} (h : dotted n s = some vs) :
    vs.length = n ∧ ∀ v ∈ vs, v ≤ 255 := by
  fun_induction dotted n s generalizing vs with
  | case1 =>
    cases h
    simp
  | case2 => cases h
  | case3 => cases h
  | case4 s v hv =>
    cases h
    simpa using takeOctet_le (by simp) hv
  | case5 s v n rest hv ih =>
    obtain ⟨ws, hws, rfl⟩ := Option.map_eq_some_iff.mp h
    obtain ⟨hlength, hle⟩ := ih hws
    exact ⟨by simp [hlength], List.forall_mem_cons.mpr ⟨takeOctet_le (by simp) hv, hle⟩⟩
  | case6 => cases h

private theorem dottedPieces_cases {s : List Char} {ps : List Nat} (h : dottedPieces s = some ps) :
    ps.length = 2 ∧ ∀ p ∈ ps, p < 65536 := by
  unfold dottedPieces at h
  split at h
  next a b c d hdotted =>
    cases h
    have hle := (dotted_cases hdotted).2
    simp only [List.forall_mem_cons] at hle
    obtain ⟨ha, hb, hc, hd, _⟩ := hle
    refine ⟨rfl, ?_⟩
    simp only [List.forall_mem_cons, List.not_mem_nil, false_imp_iff, implies_true, and_true]
    omega
  next => cases h

/-- The pieces so far fit into an address, and the gap lies among them. -/
structure Fits (pieces : List Nat) (gap : Option Nat) : Prop where
  length : pieces.length ≤ 8
  lt : ∀ p ∈ pieces, p < 65536
  gap : ∀ g, gap = some g → g ≤ pieces.length

private theorem Fits.append {pieces ps : List Nat} {gap : Option Nat} (h : Fits pieces gap)
    (hlength : pieces.length + ps.length ≤ 8) (hlt : ∀ p ∈ ps, p < 65536) :
    Fits (pieces ++ ps) gap where
  length := by simpa using hlength
  lt := List.forall_mem_append.mpr ⟨h.lt, hlt⟩
  gap g hg := by
    have := h.gap g hg
    simp only [List.length_append]
    omega

private theorem Fits.readPieces {pieces : List Nat} {gap : Option Nat} {s : List Char}
    {r : List Nat × Option Nat} (h : Fits pieces gap)
    (hread : Ipv6.readPieces pieces gap s = some r) : Fits r.1 r.2 := by
  have hvalue (s : List Char) : ∀ p ∈ [(takeHex 4 0 0 s).1], p < 65536 :=
    List.forall_mem_singleton.mpr (takeHex_lt 4 0 0 s)
  fun_induction Ipv6.readPieces pieces gap s with
  | case1 pieces gap =>
    cases hread
    exact h
  | case4 pieces rest hne ih =>
    have hlength := h.length
    refine ih ⟨?_, ?_, ?_⟩ hread
    · simp only [List.length_append, List.length_singleton]
      omega
    · exact List.forall_mem_append.mpr ⟨h.lt, by simp⟩
    · rintro g ⟨⟩
      simp
  | case5 pieces gap c rest hne hc value count htake =>
    cases hread
    have hlength := h.length
    have hlt := hvalue (c :: rest)
    rw [htake] at hlt
    exact h.append (by simp only [List.length_singleton]; omega) hlt
  | case7 pieces gap c rest hne hc value count rest' hroom htake =>
    obtain ⟨ps, hps, rfl⟩ := Option.map_eq_some_iff.mp hread
    obtain ⟨htwo, hlt⟩ := dottedPieces_cases hps
    exact h.append (by omega) hlt
  | case9 pieces gap c rest hne hc value count rest' hrest htake hd ih =>
    have hlength := h.length
    have hlt := hvalue (c :: rest)
    rw [htake] at hlt
    exact ih (h.append (by simp only [List.length_singleton]; omega) hlt) hread
  | _ => cases hread

private theorem Fits.spread {pieces result : List Nat} {gap : Option Nat} (h : Fits pieces gap)
    (hspread : Ipv6.spread (pieces, gap) = some result) : IsAddress result := by
  cases gap with
  | none =>
    simp only [Ipv6.spread] at hspread
    split at hspread
    next hlength =>
      cases hspread
      exact ⟨hlength, h.lt⟩
    next => cases hspread
  | some g =>
    cases hspread
    have hlength := h.length
    have hgap := h.gap g rfl
    refine ⟨?_, ?_⟩
    · simp only [List.length_append, List.length_take, List.length_replicate, List.length_drop]
      omega
    · intro p hp
      simp only [List.mem_append, List.mem_replicate] at hp
      rcases hp with (hp | ⟨_, rfl⟩) | hp
      · exact h.lt p (List.mem_of_mem_take hp)
      · decide
      · exact h.lt p (List.mem_of_mem_drop hp)

theorem isAddress_of_read {s : List Char} {pieces : List Nat} (h : read s = some pieces) :
    IsAddress pieces := by
  unfold read at h
  split at h
  next rest =>
    obtain ⟨r, hr, hspread⟩ := Option.bind_eq_some_iff.mp h
    exact (Fits.readPieces ⟨by simp, by simp, by simp⟩ hr).spread hspread
  next => cases h
  next => cases h
  next => cases h
  next =>
    obtain ⟨r, hr, hspread⟩ := Option.bind_eq_some_iff.mp h
    exact (Fits.readPieces ⟨by simp, by simp, by simp⟩ hr).spread hspread

/-! ## What is written -/

theorem hex_eq_append {p : Nat} (h : 16 ≤ p) :
    Numeral.hex p = Numeral.hex (p / 16) ++ [Nat.digitChar (p % 16)] :=
  Nat.toDigits_of_base_le (by decide) h

private theorem isSome_of_mem_hex {p : Nat} {c : Char} (h : c ∈ Numeral.hex p) :
    (Numeral.hexDigit? c).isSome = true := by
  induction p using Nat.strongRecOn with
  | ind p ih =>
    by_cases hp : p < 16
    · rw [Numeral.hex, Nat.toDigits_of_lt_base hp, List.mem_singleton] at h
      rw [h, Numeral.hexDigit?_digitChar p hp]
      rfl
    · rw [hex_eq_append (by omega), List.mem_append, List.mem_singleton] at h
      rcases h with h | rfl
      · exact ih (p / 16) (by omega) h
      · rw [Numeral.hexDigit?_digitChar _ (by omega)]
        rfl

private theorem colon_not_mem_hex (p : Nat) : ':' ∉ Numeral.hex p := fun h =>
  absurd (isSome_of_mem_hex h) (by decide)

private theorem hex_eq_cons (p : Nat) : ∃ c cs, Numeral.hex p = c :: cs ∧ c ≠ ':' := by
  cases h : Numeral.hex p with
  | nil => exact absurd h Nat.toDigits_ne_nil
  | cons c cs =>
    refine ⟨c, cs, rfl, ?_⟩
    rintro rfl
    exact colon_not_mem_hex p (by simp [h])

private theorem takeHex_hex (p m : Nat) (rest : List Char) :
    takeHex (m + (Numeral.hex p).length) 0 0 (Numeral.hex p ++ rest) =
      takeHex m p (Numeral.hex p).length rest := by
  induction p using Nat.strongRecOn generalizing m rest with
  | ind p ih =>
    by_cases hp : p < 16
    · simp [Numeral.hex, Nat.toDigits_of_lt_base hp, takeHex, Numeral.hexDigit?_digitChar p hp]
    · have hlast : Numeral.hexDigit? (Nat.digitChar (p % 16)) = some (p % 16) :=
        Numeral.hexDigit?_digitChar _ (by omega)
      have hsplit : p / 16 * 16 + p % 16 = p := Nat.div_add_mod' p 16
      rw [hex_eq_append (by omega), List.length_append, List.length_singleton, List.append_assoc,
        Nat.add_comm _ 1, ← Nat.add_assoc, ih (p / 16) (by omega), List.singleton_append, takeHex,
        hlast]
      simp only [hsplit, Nat.add_comm 1]

def Stops (rest : List Char) : Prop :=
  ∀ c ∈ rest.head?, Numeral.hexDigit? c = none

private theorem takeHex_of_stops {rest : List Char} (h : Stops rest) (m value count : Nat) :
    takeHex m value count rest = (value, count, rest) := by
  cases m with
  | zero => rfl
  | succ m =>
    cases rest with
    | nil => rfl
    | cons c rest => simp [takeHex, h c rfl]

private theorem takeHex_piece {p : Nat} {rest : List Char} (hp : p < 65536) (h : Stops rest) :
    takeHex 4 0 0 (Numeral.hex p ++ rest) = (p, (Numeral.hex p).length, rest) := by
  have hle : (Numeral.hex p).length ≤ 4 :=
    (Nat.length_toDigits_le_iff (by decide) (by decide)).mpr hp
  obtain ⟨m, hm⟩ := Nat.exists_eq_add_of_le' hle
  rw [hm, takeHex_hex, takeHex_of_stops h]

section Pieces

variable {pieces ps : List Nat} {gap : Option Nat} {p : Nat} {c : Char} {rest : List Char}

private theorem readPieces_hex (hne : pieces.length ≠ 8) (hp : p < 65536) :
    readPieces pieces gap (Numeral.hex p) = some (pieces ++ [p], gap) := by
  have hstops : Stops [] := by simp [Stops]
  have htake := takeHex_piece hp hstops
  obtain ⟨d, ds, hhex, hd⟩ := hex_eq_cons p
  rw [List.append_nil, hhex] at htake
  rw [hhex, readPieces.eq_def]
  simp only [if_neg hne, if_neg hd]
  split <;> rename_i heq <;> rw [htake] at heq <;> cases heq
  rfl

private theorem readPieces_hex_append (hne : pieces.length ≠ 8) (hp : p < 65536) :
    readPieces pieces gap (Numeral.hex p ++ ':' :: c :: rest) =
      readPieces (pieces ++ [p]) gap (c :: rest) := by
  have hstops : Stops (':' :: c :: rest) := by simp [Stops, Numeral.hexDigit?]
  have htake := takeHex_piece hp hstops
  obtain ⟨d, ds, hhex, hd⟩ := hex_eq_cons p
  rw [hhex, List.cons_append] at htake
  rw [hhex, List.cons_append, readPieces.eq_def]
  simp only [if_neg hne, if_neg hd]
  split <;> rename_i heq <;> rw [htake] at heq <;> cases heq
  simp

private theorem joinPieces_cons_cons (p q : Nat) (ps : List Nat) :
    joinPieces (p :: q :: ps) = Numeral.hex p ++ ':' :: joinPieces (q :: ps) := rfl

private theorem joinPieces_eq_cons (p : Nat) (ps : List Nat) :
    ∃ c cs, joinPieces (p :: ps) = c :: cs ∧ c ≠ ':' := by
  obtain ⟨c, cs, hhex, hc⟩ := hex_eq_cons p
  cases ps with
  | nil => exact ⟨c, cs, hhex, hc⟩
  | cons q ps =>
    refine ⟨c, cs ++ ':' :: joinPieces (q :: ps), ?_, hc⟩
    rw [joinPieces_cons_cons, hhex, List.cons_append]

private theorem readPieces_joinPieces (hlength : pieces.length + ps.length ≤ 8)
    (hlt : ∀ p ∈ ps, p < 65536) :
    readPieces pieces gap (joinPieces ps) = some (pieces ++ ps, gap) := by
  induction ps generalizing pieces with
  | nil => rw [joinPieces, readPieces, List.append_nil]
  | cons p ps ih =>
    obtain ⟨hp, hps⟩ := List.forall_mem_cons.mp hlt
    rw [List.length_cons] at hlength
    cases ps with
    | nil => exact readPieces_hex (by omega) hp
    | cons q ps =>
      obtain ⟨c, cs, hjoin, _⟩ := joinPieces_eq_cons q ps
      rw [joinPieces_cons_cons, hjoin, readPieces_hex_append (by omega) hp, ← hjoin,
        ih (by simp only [List.length_append, List.length_singleton]; omega) hps]
      simp

private theorem readPieces_joinPieces_append (hps : ps ≠ [])
    (hlength : pieces.length + ps.length ≤ 8)
    (hlt : ∀ p ∈ ps, p < 65536) :
    readPieces pieces gap (joinPieces ps ++ ':' :: c :: rest) =
      readPieces (pieces ++ ps) gap (c :: rest) := by
  induction ps generalizing pieces with
  | nil => exact absurd rfl hps
  | cons p ps ih =>
    obtain ⟨hp, hrest⟩ := List.forall_mem_cons.mp hlt
    rw [List.length_cons] at hlength
    cases ps with
    | nil => exact readPieces_hex_append (by omega) hp
    | cons q ps =>
      obtain ⟨d, ds, hjoin, _⟩ := joinPieces_eq_cons q ps
      rw [joinPieces_cons_cons, List.append_assoc, List.cons_append, hjoin, List.cons_append,
        readPieces_hex_append (by omega) hp, ← List.cons_append, ← hjoin,
        ih (by simp) (by simp only [List.length_append, List.length_singleton]; omega) hrest]
      simp

private theorem readPieces_colon (hne : pieces.length ≠ 8) :
    readPieces pieces none (':' :: rest) =
      readPieces (pieces ++ [0]) (some (pieces.length + 1)) rest := by
  rw [readPieces, if_neg hne, if_pos rfl]

end Pieces

private theorem replicate_zeroRun (ps : List Nat) :
    ∃ after, ps = List.replicate (zeroRun ps) 0 ++ after := by
  induction ps with
  | nil => exact ⟨[], rfl⟩
  | cons p ps ih =>
    cases p with
    | zero =>
      obtain ⟨after, hafter⟩ := ih
      refine ⟨after, ?_⟩
      rw [zeroRun, List.replicate_succ, List.cons_append, ← hafter]
    | succ p => exact ⟨p.succ :: ps, by simp [zeroRun]⟩

private theorem longestZeros_cases (i : Nat) (ps : List Nat) :
    ∃ before after, ps = before ++ List.replicate (longestZeros i ps).2 0 ++ after ∧
      (longestZeros i ps).1 = i + before.length := by
  induction ps generalizing i with
  | nil => exact ⟨[], [], rfl, rfl⟩
  | cons p ps ih =>
    rw [longestZeros]
    split
    next =>
      obtain ⟨after, hafter⟩ := replicate_zeroRun (p :: ps)
      exact ⟨[], after, hafter, rfl⟩
    next =>
      obtain ⟨before, after, hps, hstart⟩ := ih (i + 1)
      refine ⟨p :: before, after, ?_, ?_⟩
      · rw [List.cons_append, List.cons_append, ← hps]
      · rw [hstart, List.length_cons]
        omega

/-- An address is written without gap, or with one that stands for at least two zeros. -/
theorem write_cases (pieces : List Nat) :
    write pieces = joinPieces pieces ∨
      ∃ before after n, pieces = before ++ List.replicate (n + 2) 0 ++ after ∧
        write pieces = joinPieces before ++ ':' :: ':' :: joinPieces after := by
  obtain ⟨before, after, hpieces, hstart⟩ := longestZeros_cases 0 pieces
  rw [Nat.zero_add] at hstart
  simp only [write]
  split
  next => exact Or.inl rfl
  next hlong =>
    obtain ⟨n, hn⟩ := Nat.exists_eq_add_of_le' (Nat.not_lt.mp hlong)
    rw [hn] at hpieces ⊢
    refine Or.inr ⟨before, after, n, hpieces, ?_⟩
    have htake : pieces.take before.length = before := by
      rw [hpieces, List.append_assoc, List.take_left]
    have hdrop : pieces.drop (before.length + (n + 2)) = after := by
      rw [hpieces]
      exact List.drop_left' (by simp)
    rw [hstart, htake, hdrop]
    simp

private theorem spread_gap {before after : List Nat} {n : Nat}
    (hlength : (before ++ List.replicate (n + 2) 0 ++ after).length = 8) :
    spread (before ++ [0] ++ after, some (before.length + 1)) =
      some (before ++ List.replicate (n + 2) 0 ++ after) := by
  simp only [List.length_append, List.length_replicate] at hlength
  have hzeros : 8 - (before ++ [0] ++ after).length = n + 1 := by
    simp only [List.length_append, List.length_singleton]
    omega
  rw [spread, hzeros, List.take_left' (by simp), List.drop_left' (by simp),
    List.append_assoc before]
  rfl

private theorem read_joinPieces_append (p : Nat) (ps : List Nat) (rest : List Char) :
    read (joinPieces (p :: ps) ++ ':' :: rest) =
      (readPieces [] none (joinPieces (p :: ps) ++ ':' :: rest)).bind spread := by
  obtain ⟨c, cs, hjoin, hc⟩ := joinPieces_eq_cons p ps
  rw [hjoin]
  unfold read
  split <;> simp_all

/-- An address is read back from its written form. -/
theorem read_write {pieces : List Nat} (h : IsAddress pieces) :
    read (write pieces) = some pieces := by
  have hlength := h.length
  -- Without a gap all pieces stand in the text; with one, its first zero is read as a piece and the
  -- others are put back behind it.
  obtain hwrite | ⟨before, after, n, rfl, hwrite⟩ := write_cases pieces
  · match pieces, hlength with
    | p :: q :: ps, _ =>
      have hread : readPieces [] none (joinPieces (p :: q :: ps)) = some (p :: q :: ps, none) :=
        readPieces_joinPieces (by simpa using Nat.le_of_eq h.length) h.lt
      rw [hwrite, joinPieces_cons_cons, ← joinPieces, read_joinPieces_append, joinPieces,
        ← joinPieces_cons_cons, hread]
      exact if_pos h.length
  · simp only [List.length_append, List.length_replicate] at hlength
    have hbefore : ∀ p ∈ before, p < 65536 := fun p hp => h.lt p (by simp [hp])
    have hafter : readPieces (before ++ [0]) (some (before.length + 1)) (joinPieces after) =
        some (before ++ [0] ++ after, some (before.length + 1)) :=
      readPieces_joinPieces (by simp only [List.length_append, List.length_singleton]; omega)
        (fun p hp => h.lt p (by simp [hp]))
    rw [hwrite, ← spread_gap h.length]
    cases before with
    | nil => exact congrArg (Option.bind · spread) hafter
    | cons p ps =>
      rw [read_joinPieces_append,
        readPieces_joinPieces_append (by simp) (by rw [List.length_nil]; omega) hbefore,
        List.nil_append, readPieces_colon (by omega), hafter,
        Option.bind_some]

private theorem mem_joinPieces {ps : List Nat} {c : Char} (h : c ∈ joinPieces ps) :
    (Numeral.hexDigit? c).isSome = true ∨ c = ':' := by
  induction ps with
  | nil => cases h
  | cons p ps ih =>
    cases ps with
    | nil => exact Or.inl (isSome_of_mem_hex h)
    | cons q ps =>
      rw [joinPieces_cons_cons, List.mem_append, List.mem_cons] at h
      obtain h | h | h := h
      · exact Or.inl (isSome_of_mem_hex h)
      · exact Or.inr h
      · exact ih h

theorem mem_write {pieces : List Nat} {c : Char} (h : c ∈ write pieces) :
    (Numeral.hexDigit? c).isSome = true ∨ c = ':' := by
  obtain hwrite | ⟨before, after, n, _, hwrite⟩ := write_cases pieces
  · exact mem_joinPieces (hwrite ▸ h)
  · rw [hwrite, List.mem_append, List.mem_cons, List.mem_cons] at h
    obtain h | h | h | h := h
    · exact mem_joinPieces h
    · exact Or.inr h
    · exact Or.inr h
    · exact mem_joinPieces h

theorem colon_mem_write {pieces : List Nat} (h : IsAddress pieces) : ':' ∈ write pieces := by
  obtain hwrite | ⟨before, after, n, _, hwrite⟩ := write_cases pieces
  · match pieces, h.length with
    | p :: q :: ps, _ => simp [hwrite, joinPieces_cons_cons]
  · simp [hwrite]

end ClusterTransport.Url.Ipv6

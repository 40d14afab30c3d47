import ClusterTransport.Proofs.EndpointPool.Returning
import ClusterTransport.Proofs.EndpointPool.Selection
import Mathlib.Logic.Function.Iterate

/-!
# Selection among reports

A selection takes the set of a round and reads the marks of its entries one after another, while
reports set marks and rounds replace the set of the pool. What it has read may be the marks of no
single moment. But a mark stays once it is set: what was seen unmarked was unmarked at the start,
and what was seen marked is marked at the end.
-/

namespace ClusterTransport

inductive Selecting where
  /-- The mark of the preferred endpoint is to be read, if it is listed. -/
  | begun
  /-- The marks of the first entries were read in their order. -/
  | scanning (seen : List Bool)
  | done (answer : Except Error Endpoint)

namespace Selecting

def selected? : Selecting → Option Endpoint
  | done (.ok e) => some e
  | _ => none

private theorem eq_done_of_selected? {selecting : Selecting} {e : Endpoint}
    (h : selecting.selected? = some e) : selecting = done (.ok e) := by
  unfold selected? at h
  split at h
  next => rw [Option.some.inj h]
  next => cases h

def pick (balancing : BalancingSettings) (s : EndpointSet) (seen : List Bool)
    (w : Balancing.Words) : Except Error Endpoint :=
  match (balancing.choose (EndpointSet.candidates s.records seen) s.selfLocation w).1 with
  | some e => .ok e
  | none => .error .noEndpoints

/-- Each step reads at most one mark. Nothing is shared after the last of them, so the pick belongs
to the step that reads it. -/
def step (balancing : BalancingSettings) (preferred : Option Endpoint) (s : EndpointSet)
    (w : Balancing.Words) : Selecting → Selecting
  | begun =>
    if s.size = 0 then done (.error .noEndpoints)
    else
      match s.preferredPick preferred with
      | some e => done (.ok e)
      | none => scanning []
  | scanning seen =>
    match s.entries[seen.length]? with
    | none => scanning seen
    | some x =>
      let seen := seen ++ [x.isPessimized]
      if seen.length < s.size then scanning seen else done (pick balancing s seen w)
  | done answer => done answer

variable {balancing : BalancingSettings} {preferred : Option Endpoint} {s : EndpointSet}
  {w : Balancing.Words}

private theorem step_scanning {seen : List Bool} {x : PoolEntry}
    (h : s.entries[seen.length]? = some x) :
    (scanning seen).step balancing preferred s w =
      if seen.length + 1 < s.size then scanning (seen ++ [x.isPessimized])
      else done (pick balancing s (seen ++ [x.isPessimized]) w) := by
  simp [step, h]

private theorem step_scanning_take {k : Nat} (hk : k < s.size) :
    (scanning ((s.entries.map PoolEntry.isPessimized).take k)).step balancing preferred s w =
      if k + 1 < s.size then scanning ((s.entries.map PoolEntry.isPessimized).take (k + 1))
      else done (pick balancing s ((s.entries.map PoolEntry.isPessimized).take (k + 1)) w) := by
  have hlength : ((s.entries.map PoolEntry.isPessimized).take k).length = k := by
    rw [List.length_take, List.length_map]
    exact Nat.min_eq_left (Nat.le_of_lt hk)
  have hlt : k < s.entries.length := hk
  rw [step_scanning (by rw [hlength]; exact List.getElem?_eq_getElem hlt), hlength,
    List.take_succ_eq_append_getElem (by rwa [List.length_map]), List.getElem_map]

private theorem iterate_step_scanning {k : Nat} (hk : k < s.size) :
    (step balancing preferred s w)^[k] (scanning []) =
      scanning ((s.entries.map PoolEntry.isPessimized).take k) := by
  induction k with
  | zero => rfl
  | succ k ih =>
    rw [Function.iterate_succ_apply', ih (Nat.lt_of_succ_lt hk),
      step_scanning_take (Nat.lt_of_succ_lt hk), if_pos hk]

/-- A selection whose steps nothing interrupts answers what the pool selects at once. -/
theorem iterate_step_eq_select (p : EndpointPool) (preferred : Option Endpoint)
    (w : Balancing.Words) :
    (step p.balancing preferred p.current w)^[p.current.size + 1] begun =
      done (p.select preferred w).1 := by
  have hdone (answer : Except Error Endpoint) (n : Nat) :
      (step p.balancing preferred p.current w)^[n] (done answer) = done answer :=
    Function.iterate_fixed rfl n
  rw [Function.iterate_succ_apply]
  by_cases hsize : p.current.size = 0
  · simp [step, hsize, EndpointPool.select]
  · cases hpick : p.current.preferredPick preferred with
    | some e =>
      have hfirst : begun.step p.balancing preferred p.current w = done (.ok e) := by
        simp [step, hsize, hpick]
      rw [hfirst, hdone, EndpointPool.select_of_preferredPick hsize hpick]
    | none =>
      have hfirst : begun.step p.balancing preferred p.current w = scanning [] := by
        simp [step, hsize, hpick]
      obtain ⟨n, hn⟩ := Nat.exists_eq_succ_of_ne_zero hsize
      have hall : (p.current.entries.map PoolEntry.isPessimized).take (n + 1) =
          p.current.entries.map PoolEntry.isPessimized :=
        List.take_of_length_le (by rw [List.length_map]; exact Nat.le_of_eq hn)
      rw [hfirst, hn, Function.iterate_succ_apply', iterate_step_scanning (by omega),
        step_scanning_take (by omega), if_neg (by omega), hall]
      simp only [EndpointPool.select, if_neg hsize, hpick, pick]
      change done (match (p.balancing.choose p.candidates p.current.selfLocation w).1 with
        | some e => .ok e
        | none => .error .noEndpoints) = _
      rcases p.balancing.choose p.candidates p.current.selfLocation w with ⟨_ | e, w'⟩ <;> rfl

end Selecting

/-- Reports, and a selection that takes its steps among theirs. -/
structure Racing where
  reports : Reports
  preferred : Option Endpoint
  /-- The round whose set the selection has taken. -/
  generation : Nat
  selecting : Selecting := .begun

namespace Racing

inductive Move where
  | others (m : Reports.Move)
  | step (w : Balancing.Words)

def start (s : Reports) (preferred : Option Endpoint) : Racing :=
  ⟨s, preferred, s.replaced.length, .begun⟩

def move (s : Racing) : Move → Option Racing
  | .others m => (s.reports.move m).map fun reports => { s with reports }
  | .step w =>
    s.reports.sets[s.generation]?.map fun set =>
      { s with
        selecting := s.selecting.step s.reports.pool.balancing s.preferred set w }

def run (s : Racing) (ms : List Move) : Option Racing :=
  ms.foldlM move s

end Racing

namespace EndpointSet

private theorem seen_of_mem_candidates {records : List Endpoint} {seen : List Bool} {r : Endpoint}
    (hlength : seen.length = records.length) (h : r ∈ candidates records seen) :
    (∃ i : Nat, records[i]? = some r ∧ seen[i]? = some false) ∨
      r ∈ records ∧ ∀ b ∈ seen, b = true := by
  simp only [candidates] at h
  split at h
  next hnone =>
    refine Or.inr ⟨h, ?_⟩
    intro b hb
    obtain ⟨i, hi⟩ := List.mem_iff_getElem?.mp hb
    have hlt : i < records.length := hlength ▸ (List.getElem?_eq_some_iff.mp hi).1
    have hmem : (records[i], b) ∈ records.zip seen := by
      refine List.mem_of_getElem? (i := i) ?_
      exact List.getElem?_zip_eq_some.mpr ⟨List.getElem?_eq_getElem hlt, hi⟩
    have hall : ∀ r ∈ records.zip seen, r.2 = true := by
      simpa [List.filter_eq_nil_iff] using hnone
    exact hall _ hmem
  next =>
    obtain ⟨⟨q, b⟩, hmem, rfl⟩ := List.mem_map.mp h
    obtain ⟨hmem, hb⟩ := List.mem_filter.mp hmem
    obtain ⟨i, hi⟩ := List.mem_iff_getElem?.mp hmem
    obtain ⟨hq, hseen⟩ := List.getElem?_zip_eq_some.mp hi
    exact Or.inl ⟨i, hq, by simpa [show b = false by simpa using hb] using hseen⟩

private theorem Later.all_marked {s t : EndpointSet} (h : s.Later t)
    (hall : ∀ x ∈ s.entries, x.isPessimized = true) : ∀ y ∈ t.entries, y.isPessimized = true := by
  intro y hy
  obtain ⟨i, hi⟩ := List.mem_iff_getElem?.mp hy
  cases hmark : y.isPessimized with
  | true => rfl
  | false =>
    obtain ⟨x, hx, _, hunmarked⟩ := h.unmarked hi hmark
    exact hunmarked.symm.trans (hall x (List.mem_of_getElem? hx))

end EndpointSet

namespace Selecting

variable {s t u : EndpointSet} {balancing : BalancingSettings} {preferred : Option Endpoint}
  {w : Balancing.Words}

/-- What was seen marked is marked now, and what was seen unmarked was unmarked at the start. -/
structure Seen (s t : EndpointSet) (seen : List Bool) : Prop where
  marked : ∀ i : Nat, seen[i]? = some true → ∃ y, t.entries[i]? = some y ∧ y.isPessimized = true
  unmarked : ∀ i : Nat, seen[i]? = some false →
    ∃ x, s.entries[i]? = some x ∧ x.isPessimized = false

/-- The answer is an endpoint that was unmarked at the start, or all are marked now; there is none
only if there are no endpoints. -/
def Answers (s t : EndpointSet) (answer : Except Error Endpoint) : Prop :=
  (s.entries = [] ∧ answer = .error .noEndpoints) ∨
    ∃ x ∈ s.entries, answer = .ok x.record ∧
      (x.isPessimized = false ∨ ∀ y ∈ t.entries, y.isPessimized = true)

/-- The selection agrees with the set that it has taken, at the start and now. -/
def Agrees (s t : EndpointSet) : Selecting → Prop
  | begun => True
  | scanning seen => Seen s t seen ∧ seen.length < t.size
  | done answer => Answers s t answer

private theorem Seen.later (hlater : t.Later u) {seen : List Bool} (h : Seen s t seen) :
    Seen s u seen where
  marked i hi := by
    obtain ⟨y, hy, hmark⟩ := h.marked i hi
    exact ⟨y, hlater.marked i y hy hmark, hmark⟩
  unmarked := h.unmarked

private theorem Seen.append (hlater : s.Later t) {seen : List Bool} (h : Seen s t seen)
    {y : PoolEntry}
    (hy : t.entries[seen.length]? = some y) : Seen s t (seen ++ [y.isPessimized]) where
  marked i hi := by
    rcases getElem?_concat_eq_some_iff.mp hi with hold | ⟨rfl, hmark⟩
    · exact h.marked i hold
    · exact ⟨y, hy, hmark⟩
  unmarked i hi := by
    rcases getElem?_concat_eq_some_iff.mp hi with hold | ⟨rfl, hmark⟩
    · exact h.unmarked i hold
    · obtain ⟨x, hx, _, hunmarked⟩ := hlater.unmarked hy hmark
      exact ⟨x, hx, hunmarked⟩

private theorem Agrees.later (hlater : t.Later u) {selecting : Selecting}
    (h : selecting.Agrees s t) :
    selecting.Agrees s u := by
  cases selecting with
  | begun => trivial
  | scanning seen => exact ⟨h.1.later hlater, hlater.size_eq ▸ h.2⟩
  | done answer =>
    refine Or.imp_right ?_ h
    rintro ⟨x, hx, hanswer, hmark⟩
    exact ⟨x, hx, hanswer, hmark.imp_right hlater.all_marked⟩

private theorem answers_preferredPick (hlater : s.Later t) {r : Endpoint}
    (h : t.preferredPick preferred = some r) : Answers s t (.ok r) := by
  unfold EndpointSet.preferredPick at h
  split at h
  next => cases h
  next y hy =>
    split at h
    next => cases h
    next hmark =>
      cases h
      obtain ⟨e, _, hentry⟩ := Option.bind_eq_some_iff.mp hy
      obtain ⟨i, _, hi⟩ := Option.bind_eq_some_iff.mp hentry
      obtain ⟨x, hx, hrecord, hunmarked⟩ := hlater.unmarked hi (by simpa using hmark)
      exact Or.inr ⟨x, List.mem_of_getElem? hx, by rw [hrecord], Or.inl hunmarked⟩

private theorem Answers.all_marked (hs : s.Indexed) {r e : Endpoint} (h : Answers s t (.ok r))
    (hmarked : s.Avoids e) (hsame : r.toAddress = e.toAddress) :
    ∀ y ∈ t.entries, y.isPessimized = true := by
  rcases h with ⟨_, herror⟩ | ⟨x, hx, hok, hunmarked | hall⟩
  · cases herror
  · obtain rfl := Except.ok.inj hok
    have hentry : s.entry? e = some x := hs.entry?_eq_some_iff.mpr ⟨hx, hsame⟩
    cases hunmarked.symm.trans (hmarked x hentry)
  · exact hall

private theorem answers_pick (hlater : s.Later t) {seen : List Bool} (h : Seen s t seen)
    (hlength : seen.length = t.size) (hne : t.records ≠ []) :
    Answers s t (pick balancing t seen w) := by
  have hcandidates : EndpointSet.candidates t.records seen ≠ [] :=
    EndpointSet.candidates_ne_nil hne
  obtain ⟨r, hr, hchoose⟩ := balancing.exists_mem_choose t.selfLocation hcandidates w
  have hcandidate := (BalancingSettings.mem_eligible.mp hr).1
  have hpick : pick balancing t seen w = .ok r := by rw [pick, hchoose]
  have hrecord (i : Nat) (hi : t.records[i]? = some r) :
      ∃ x, s.entries[i]? = some x ∧ x.record = r := by
    rw [hlater.sameRound.records] at hi
    exact Option.map_eq_some_iff.mp (List.getElem?_map.symm.trans hi)
  refine Or.inr ?_
  -- The candidates are those that were seen unmarked, or all if none was; the marks that were seen
  -- are of different moments, but each of them holds at one end of the scan.
  rcases EndpointSet.seen_of_mem_candidates (by rw [hlength, t.length_records]) hcandidate with
    ⟨i, hi, hunseen⟩ | ⟨hmem, hall⟩
  · obtain ⟨x, hx, hunmarked⟩ := h.unmarked i hunseen
    obtain ⟨y, hy, rfl⟩ := hrecord i hi
    obtain rfl := Option.some.inj (hy.symm.trans hx)
    exact ⟨y, List.mem_of_getElem? hx, hpick, Or.inl hunmarked⟩
  · obtain ⟨i, hi⟩ := List.mem_iff_getElem?.mp hmem
    obtain ⟨x, hx, rfl⟩ := hrecord i hi
    refine ⟨x, List.mem_of_getElem? hx, hpick, Or.inr ?_⟩
    intro y hy
    obtain ⟨j, hj⟩ := List.mem_iff_getElem?.mp hy
    have hlt : j < seen.length := hlength ▸ (List.getElem?_eq_some_iff.mp hj).1
    obtain ⟨z, hz, hmark⟩ := h.marked j
      (List.getElem?_eq_some_iff.mpr ⟨hlt, hall _ (List.getElem_mem hlt)⟩)
    exact Option.some.inj (hj.symm.trans hz) ▸ hmark

theorem Agrees.step (hlater : s.Later t) {selecting : Selecting} (h : selecting.Agrees s t) :
    (selecting.step balancing preferred t w).Agrees s t := by
  cases selecting with
  | begun =>
    simp only [Selecting.step]
    split
    next hsize =>
      refine Or.inl ⟨?_, rfl⟩
      exact List.length_eq_zero_iff.mp (hlater.size_eq.symm.trans hsize)
    next =>
      split
      next r hr => exact answers_preferredPick hlater hr
      next hsize _ _ => exact ⟨⟨by simp, by simp⟩, Nat.pos_of_ne_zero hsize⟩
  | scanning seen =>
    simp only [Selecting.step]
    split
    next => exact h
    next y hy =>
      have hseen : Seen s t (seen ++ [y.isPessimized]) := h.1.append hlater hy
      split
      next hmore => exact ⟨hseen, hmore⟩
      next hlast =>
        have hlt : seen.length < t.records.length := t.length_records ▸ h.2
        refine answers_pick hlater hseen ?_ (List.ne_nil_of_length_pos (by omega))
        simp only [List.length_append, List.length_singleton] at hlast ⊢
        have := t.length_records
        omega
  | done answer => exact h

def remaining (size : Nat) : Selecting → Nat
  | begun => size + 1
  | scanning seen => size - seen.length
  | done _ => 0

theorem remaining_step (balancing : BalancingSettings) (preferred : Option Endpoint)
    (w : Balancing.Words) {selecting : Selecting} (h : selecting.Agrees s t) :
    (selecting.step balancing preferred t w).remaining t.size + 1 ≤
      max 1 (selecting.remaining t.size) := by
  cases selecting with
  | begun =>
    simp only [Selecting.step]
    split
    next => exact Nat.le_max_left ..
    next =>
      split
      next => exact Nat.le_max_left ..
      next => exact Nat.le_max_right ..
  | scanning seen =>
    obtain ⟨y, hy⟩ : ∃ y, t.entries[seen.length]? = some y := ⟨_, List.getElem?_eq_getElem h.2⟩
    rw [step_scanning hy]
    split
    next =>
      simp only [remaining, List.length_append, List.length_singleton]
      omega
    next => exact Nat.le_max_left ..
  | done answer => exact Nat.le_max_left ..

private theorem Agrees.exists_answer {selecting : Selecting} (h : selecting.Agrees s t)
    (hremaining : selecting.remaining t.size = 0) : ∃ answer, selecting = .done answer := by
  cases selecting with
  | begun => cases hremaining
  | scanning seen => exact absurd h.2 (by simp only [remaining] at hremaining; omega)
  | done answer => exact ⟨answer, rfl⟩

end Selecting

namespace Racing

variable {s t : Racing} {m : Move} {set : EndpointSet}

def Move.isStep : Move → Bool
  | others _ => false
  | step _ => true

/-- The selection has taken the set, and agrees with what has become of it. -/
structure Holds (set : EndpointSet) (generation : Nat) (s : Racing) : Prop where
  taken : s.generation = generation
  now : ∃ later, s.reports.sets[generation]? = some later ∧ set.Later later ∧
    s.selecting.Agrees set later

theorem Holds.move {generation : Nat} (h : Holds set generation s) (hm : s.move m = some t) :
    Holds set generation t ∧
      t.selecting.remaining set.size + m.isStep.toNat ≤
        max m.isStep.toNat (s.selecting.remaining set.size) := by
  obtain ⟨later, hset, hlater, hagrees⟩ := h.now
  cases m with
  | others m =>
    obtain ⟨reports, hreports, rfl⟩ := Option.map_eq_some_iff.mp hm
    obtain ⟨next, hnext, hmore⟩ := Reports.exists_later_of_move hreports hset
    exact ⟨⟨h.taken, next, hnext, hlater.trans hmore, hagrees.later hmore⟩,
      Nat.le_max_right _ _⟩
  | step w =>
    obtain ⟨taken, htaken, rfl⟩ := Option.map_eq_some_iff.mp hm
    rw [h.taken, hset] at htaken
    obtain rfl := Option.some.inj htaken
    refine ⟨⟨h.taken, later, hset, hlater, hagrees.step hlater⟩, ?_⟩
    rw [← hlater.size_eq]
    exact Selecting.remaining_step s.reports.pool.balancing s.preferred w hagrees

theorem holds_start (s : Reports) (preferred : Option Endpoint) :
    Holds s.pool.current s.replaced.length (start s preferred) where
  taken := rfl
  now := ⟨s.pool.current, List.getElem?_concat_length, .refl _, trivial⟩

theorem holds_run {s : Reports} {preferred : Option Endpoint} {ms : List Move}
    (hrun : (start s preferred).run ms = some t) :
    Holds s.pool.current s.replaced.length t ∧
      t.selecting.remaining s.pool.current.size + ms.countP Move.isStep ≤
        max (ms.countP Move.isStep) (s.pool.current.size + 1) := by
  refine foldlM_induction (fun ms t => Holds s.pool.current s.replaced.length t ∧
    t.selecting.remaining s.pool.current.size + ms.countP Move.isStep ≤
      max (ms.countP Move.isStep) (s.pool.current.size + 1))
    ⟨holds_start s preferred, by simp [start, Selecting.remaining]⟩ ?_ hrun
  rintro ms u m v _ ⟨hholds, hcount⟩ hm
  obtain ⟨hnext, hstep⟩ := hholds.move hm
  refine ⟨hnext, ?_⟩
  rw [List.countP_append, List.countP_singleton]
  cases hkind : m.isStep <;> simp only [hkind, Bool.toNat_true, Bool.toNat_false, if_true,
    Bool.false_eq_true, if_false] at hstep ⊢ <;> omega

/-- While reports and rounds go on, a selection answers an endpoint of the set that it has taken:
one that was unmarked when it took the set, or any if all are marked by the end of the scan. It
finds none only in an empty set, and is done after one more step than there are endpoints. An
endpoint whose report has returned before is thus answered only if all are marked by then, if the
rounds between have renewed its mark. -/
theorem select_among_reports (balancing : BalancingSettings)
    (pessimization : PessimizationSettings) (preferred : Option Endpoint)
    {before : List Reports.Move} {s : Reports} {ms : List Move} {t : Racing}
    (hbefore : Reports.run { pool := { balancing, pessimization } } before = some s)
    (hrun : (start s preferred).run ms = some t) :
    ∃ last, t.reports.sets[s.replaced.length]? = some last ∧ s.pool.current.Later last ∧
      (s.pool.current.size < ms.countP Move.isStep → ∃ answer, t.selecting = .done answer) ∧
      ∀ answer, t.selecting = .done answer →
        ((s.pool.current.entries = [] ∧ answer = .error .noEndpoints) ∨
          ∃ x ∈ s.pool.current.entries, answer = .ok x.record ∧
            (x.isPessimized = false ∨ ∀ y ∈ last.entries, y.isPessimized = true)) ∧
        ∀ e earlier later u, before = earlier ++ later →
          Reports.Returns { balancing, pessimization } earlier e u →
          u.pool.health e ≠ some none ∧
            ∀ at_, u.pool.health e = some (some at_) →
              EndpointPool.Renews (Span.seconds pessimization.ttl.toNat) e at_
                (Reports.rounds later) →
              ∀ r, answer = .ok r → r.toAddress = e.toAddress →
                ∀ y ∈ last.entries, y.isPessimized = true := by
  obtain ⟨⟨_, last, hlast, hlater, hagrees⟩, hcount⟩ := holds_run hrun
  refine ⟨last, hlast, hlater, ?_, ?_⟩
  · intro hsteps
    refine hagrees.exists_answer ?_
    rw [hlater.size_eq]
    omega
  · intro answer hdone
    rw [hdone] at hagrees
    refine ⟨hagrees, ?_⟩
    intro e earlier later u hsplit hreturns
    have hnew := EndpointSet.Sound.empty.indexed
    have hearlier := hreturns.run_eq
    refine ⟨EndpointPool.avoids_iff.mp (hreturns.avoids hnew), ?_⟩
    intro at_ hhealth hrenews r hanswer hsame
    have hmark : s.pool.health e = some (some at_) := by
      refine Reports.health_of_run hhealth ?_ (foldlM_of_append (hsplit ▸ hbefore) hearlier)
      rwa [Reports.pessimization_of_run hearlier]
    have hmarked : s.pool.current.Avoids e := EndpointPool.avoids_iff.mpr (by simp [hmark])
    rw [hanswer] at hagrees
    exact hagrees.all_marked (Reports.reported_run hnew hbefore).indexed hmarked hsame

/-- One endpoint is marked before the selection begins and the other one while it reads, and a round
replaces their set before it has read the last mark: the marked one may be answered. -/
theorem select_among_reports_of_both :
    let a := Endpoint.ofAddress ⟨"h", 1⟩
    let b := Endpoint.ofAddress ⟨"h", 2⟩
    let w : Balancing.Words := { next := fun _ => 0 }
    let before := [.round 0 "" [a, b], .report a, .stepReport 0 1, .stepReport 0 1]
    let ms := [.step w, .step w, .others (.report b), .others (.stepReport 1 2),
      .others (.stepReport 1 2), .others (.stepReport 1 2), .others (.round 3 "" [b]), .step w]
    ∃ s t last, Reports.run { pool := {} } (before ++ [.stepReport 0 1]) = some s ∧
      (start s (some a)).run ms = some t ∧ t.selecting = .done (.ok a) ∧
      t.reports.sets[s.replaced.length]? = some last ∧
      ∀ y ∈ last.entries, y.isPessimized = true := by
  intro a b w before ms
  have hcounting : (Reports.run { pool := {} } before).map Reports.reports = some [.counting] := by
    decide +kernel
  have hstart : (Reports.run { pool := {} } (before ++ [.stepReport 0 1])).map
      (fun s => (s.reports, s.pool.health a)) = some ([.done], some (some 1)) := by decide +kernel
  have hends : (Reports.run { pool := {} } (before ++ [.stepReport 0 1])).bind
      (fun s => ((start s (some a)).run ms).map fun t => t.selecting.selected?) =
        some (some a) := by decide +kernel
  obtain ⟨u, hu, hreports⟩ := Option.map_eq_some_iff.mp hcounting
  obtain ⟨s, hs, hstart⟩ := Option.map_eq_some_iff.mp hstart
  obtain ⟨hdone, hhealth⟩ := Prod.mk.inj hstart
  rw [hs, Option.bind_some] at hends
  obtain ⟨t, ht, hanswer⟩ := Option.map_eq_some_iff.mp hends
  have hselected := Selecting.eq_done_of_selected? hanswer
  have hreturns : Reports.Returns {} (before ++ [.stepReport 0 1]) a s := by
    refine ⟨before, 0, 1, u, rfl, hu, rfl, ⟨.counting, by rw [hreports]; rfl, by decide⟩, ?_, ?_⟩
    · have hlast := foldlM_of_append hs hu
      simpa using hlast
    · rw [hdone]
      rfl
  obtain ⟨last, hlast, _, _, hall⟩ := select_among_reports {} {} (some a) hs ht
  refine ⟨s, t, last, hs, ht, hselected, hlast, ?_⟩
  exact ((hall _ hselected).2 a _ [] s (by simp) hreturns).2 1 hhealth (by simp [Reports.rounds,
    EndpointPool.Renews]) a rfl rfl

end Racing

end ClusterTransport

import ClusterTransport.Config.File
import ClusterTransport.Proofs.Config.Settings

/-!
# Layers of a configuration

An environment variable sets the setting that it names. All other settings stay as they are, except
that a part that is no table gives way to one, in which the others have their defaults.
-/

namespace ClusterTransport

namespace Json

private theorem lookup_insert_self (key : String) (value : Json) (fields : List (String × Json)) :
    lookup key (insert key value fields) = some value := by
  induction fields with
  | nil => simp [insert, lookup]
  | cons field fields ih =>
    obtain ⟨k, v⟩ := field
    by_cases hk : k = key
    · simp [insert, lookup, hk]
    · simp [insert, lookup, hk, ih]

private theorem lookup_insert_of_ne {key other : String} (h : other ≠ key) (value : Json)
    (fields : List (String × Json)) :
    lookup other (insert key value fields) = lookup other fields := by
  induction fields with
  | nil => simp [insert, lookup, Ne.symm h]
  | cons field fields ih =>
    obtain ⟨k, v⟩ := field
    by_cases hk : k = key
    · subst hk
      simp [insert, lookup, Ne.symm h]
    · by_cases hother : k = other
      · subst hother
        simp [insert, lookup, hk]
      · simp [insert, lookup, hk, hother, ih]

end Json

namespace Config

private theorem Part.name_injective {p q : Part} (h : p.name = q.name) : p = q := by
  cases p <;> cases q <;> first | rfl | exact absurd h (by decide)

variable {fields : List (String × Json)} {environment : List (String × String)}

private theorem read_keyed {α : Type} (key : String) (place : Nat) (f : Json → Option α)
    (missing : α) :
    (Source.keyed fields).read key place f missing =
      match Json.lookup key fields with
      | none => some missing
      | some v => f v := rfl

def Part.IsNoTable (p : Part) (fields : List (String × Json)) : Prop :=
  ∃ v, Json.lookup p.name fields = some v ∧ ∀ inner, v ≠ .object inner

namespace Setting

/-- The key of a setting from the top: a dot sets off its part. -/
def key (f : Setting) : String :=
  match f.part? with
  | none => f.name
  | some p => p.name ++ "." ++ f.name

private theorem ofKey_key (f : Setting) :
    SettingPath.ofKey f.key =
      match f.part? with
      | none => ⟨f.name, []⟩
      | some p => ⟨p.name, [.key f.name]⟩ := by
  cases f <;> decide +kernel

private theorem name_injective {f g : Setting} (h : f.name = g.name) : f = g := by
  cases f <;> cases g <;> first | rfl | exact absurd h (by decide)

private theorem key_injective {f g : Setting} (h : f.key = g.key) : f = g := by
  have hpath := congrArg SettingPath.ofKey h
  rw [ofKey_key, ofKey_key] at hpath
  apply name_injective
  cases hf : f.part? <;> cases hg : g.part? <;> simp_all

private theorem name_ne (f : Setting) (p : Part) : f.name ≠ p.name := by
  cases f <;> cases p <;> decide

/-- The fields with a setting at its key, in a table of its part if it has one. -/
def put (f : Setting) (v : Json) (fields : List (String × Json)) : List (String × Json) :=
  match f.part? with
  | none => Json.insert f.name v fields
  | some p =>
    let inner := fieldsOf ((Json.lookup p.name fields).getD .null)
    Json.insert p.name (.object (Json.insert f.name v inner)) fields

private theorem setAt_key (f : Setting) {v : Json} (hv : ∀ below, overlay v below = v) :
    setAt f.key v (.object fields) = .object (f.put v fields) := by
  rw [setAt, ofKey_key, put]
  cases f.part? with
  | none => simp [update, fieldsOf, hv]
  | some p => simp [update, fieldsOf, hv]

private theorem lookup_put_of_part (f : Setting) (v : Json) {p : Part} (h : f.part? = some p) :
    Json.lookup p.name (f.put v fields) =
      some (.object (Json.insert f.name v
        (fieldsOf ((Json.lookup p.name fields).getD .null)))) := by
  simp only [put, h]
  exact Json.lookup_insert_self _ _ _

private theorem lookup_put_of_part_ne (f : Setting) (v : Json) {p : Part} (h : f.part? ≠ some p) :
    Json.lookup p.name (f.put v fields) = Json.lookup p.name fields := by
  rw [put]
  cases hf : f.part? with
  | none => exact Json.lookup_insert_of_ne (f.name_ne p).symm _ _
  | some q => exact Json.lookup_insert_of_ne (fun hq => h (by rw [hf, Part.name_injective hq])) _ _

private theorem lookup_insert_name {f g : Setting} (h : g ≠ f) (v : Json) :
    Json.lookup g.name (Json.insert f.name v fields) = Json.lookup g.name fields :=
  Json.lookup_insert_of_ne (fun hname => h (name_injective hname)) v fields

private theorem lookup_put_of_ne {f g : Setting} (h : g ≠ f) (v : Json) :
    Json.lookup g.name (f.put v fields) = Json.lookup g.name fields := by
  rw [put]
  cases f.part? with
  | none => exact lookup_insert_name h v
  | some q => exact Json.lookup_insert_of_ne (g.name_ne q) _ _

private theorem isNoTable_put_iff (f : Setting) (v : Json) (p : Part) :
    p.IsNoTable (f.put v fields) ↔ f.part? ≠ some p ∧ p.IsNoTable fields := by
  by_cases h : f.part? = some p
  · refine iff_of_false ?_ fun h' => h'.1 h
    rintro ⟨w, hw, hobject⟩
    rw [lookup_put_of_part f v h] at hw
    cases hw
    exact hobject _ rfl
  · rw [Part.IsNoTable, lookup_put_of_part_ne f v h, ← Part.IsNoTable]
    exact (and_iff_right h).symm

private theorem readPart_object (g : Setting) :
    g.readPart (some (.object fields)) =
      (Source.keyed fields).read g.name g.place g.read g.default := rfl

private theorem found_nil (g : Setting) : g.found [] = some g.default := by
  rw [found]
  cases g.part? <;> rfl

private theorem found_put_self (f : Setting) (v : Json) : f.found (f.put v fields) = f.read v := by
  rw [found]
  cases h : f.part? with
  | none => simp [put, h, read_keyed, Json.lookup_insert_self]
  | some p =>
    dsimp only
    rw [lookup_put_of_part f v h, readPart_object, read_keyed, Json.lookup_insert_self]

private theorem found_put_of_ne {f g : Setting} (h : g ≠ f) (v : Json)
    (hpart : ∀ p, g.part? = some p → f.part? = some p → ¬ p.IsNoTable fields) :
    g.found (f.put v fields) = g.found fields := by
  rw [found, found]
  cases hg : g.part? with
  | none => simp only [read_keyed, lookup_put_of_ne h]
  | some p =>
    dsimp only
    by_cases hf : f.part? = some p
    · rw [lookup_put_of_part f v hf, readPart_object, read_keyed, lookup_insert_name h]
      cases hlookup : Json.lookup p.name fields with
      | none => rfl
      | some w =>
        by_cases hw : ∃ inner, w = .object inner
        · obtain ⟨inner, rfl⟩ := hw
          rw [readPart_object, read_keyed]
          rfl
        · exact absurd ⟨w, hlookup, fun inner hinner => hw ⟨inner, hinner⟩⟩ (hpart p hg hf)
    · rw [lookup_put_of_part_ne f v hf]

private theorem found_put_of_isNoTable {f g : Setting} (h : g ≠ f) (v : Json) {p : Part}
    (hg : g.part? = some p) (hf : f.part? = some p) (hp : p.IsNoTable fields) :
    g.found (f.put v fields) = some g.default := by
  obtain ⟨w, hw, hobject⟩ := hp
  have hfields : fieldsOf w = [] := by
    cases w with
    | object inner => exact absurd rfl (hobject inner)
    | _ => rfl
  rw [found, hg]
  dsimp only
  rw [lookup_put_of_part f v hf, hw, Option.getD_some, hfields, readPart_object, read_keyed,
    lookup_insert_name h, Json.lookup]

def IsSetBy (f : Setting) (environment : List (String × String)) : Prop :=
  ∃ v ∈ environment, variableKey v.1 = some f.key

/-- What the variables of an environment set a setting to: the last one that names it counts. -/
def told? (f : Setting) (environment : List (String × String)) : Option String :=
  (environment.reverse.find? fun v => variableKey v.1 = some f.key).map Prod.snd

private theorem told?_cons (f : Setting) (v : String × String) :
    f.told? (v :: environment) =
      (f.told? environment).or (if variableKey v.1 = some f.key then some v.2 else none) := by
  simp only [told?, List.reverse_cons, List.find?_append, Option.map_or]
  congr 1
  by_cases h : variableKey v.1 = some f.key <;> simp [h]

private theorem told?_eq_none_iff (f : Setting) :
    f.told? environment = none ↔ ¬ f.IsSetBy environment := by
  simp [told?, IsSetBy]

private theorem isSetBy_cons_iff (f : Setting) (v : String × String) :
    f.IsSetBy (v :: environment) ↔ variableKey v.1 = some f.key ∨ f.IsSetBy environment := by
  simp [IsSetBy]

/-- A setting gives way to another one of its part, which is no table. -/
def IsDisplaced (g : Setting) (environment : List (String × String))
    (fields : List (String × Json)) : Prop :=
  ∃ p, g.part? = some p ∧ p.IsNoTable fields ∧
    ∃ f : Setting, f.part? = some p ∧ f.IsSetBy environment

end Setting

private theorem overlay_variableValue (text : String) (below : Json) :
    overlay (variableValue text) below = variableValue text := by
  rw [variableValue]
  repeat' split
  all_goals rw [overlay]; nofun

/-- What the settings are in a table over which an environment has been laid. -/
structure Layered (environment : List (String × String)) (fields above : List (String × Json)) :
    Prop where
  told : ∀ (g : Setting) (text : String), g.told? environment = some text →
    g.found above = g.read (variableValue text)
  displaced : ∀ g : Setting, ¬ g.IsSetBy environment → g.IsDisplaced environment fields →
    g.found above = some g.default
  kept : ∀ g : Setting, ¬ g.IsSetBy environment → ¬ g.IsDisplaced environment fields →
    g.found above = g.found fields

namespace Layered

variable {above : List (String × Json)} {v : String × String}

private theorem nil : Layered [] fields fields where
  told _ _ h := nomatch h
  displaced _ _ := by
    rintro ⟨_, _, _, _, _, _, h, _⟩
    exact absurd h List.not_mem_nil
  kept _ _ _ := rfl

theorem found_of_nil (h : Layered environment [] above) {g : Setting}
    (hg : ¬ g.IsSetBy environment) : g.found above = some g.default := by
  rw [h.kept g hg, Setting.found_nil]
  rintro ⟨_, _, ⟨_, hlookup, _⟩, _⟩
  cases hlookup

private theorem cons_of_foreign (hv : variableKey v.1 = none)
    (h : Layered environment fields above) :
    Layered (v :: environment) fields above := by
  have hset (g : Setting) : g.IsSetBy (v :: environment) ↔ g.IsSetBy environment := by
    simp [Setting.isSetBy_cons_iff, hv]
  have hdisplaced (g : Setting) :
      g.IsDisplaced (v :: environment) fields ↔ g.IsDisplaced environment fields := by
    simp only [Setting.IsDisplaced, hset]
  refine ⟨fun g text htold => h.told g text ?_, fun g hg hd => ?_, fun g hg hd => ?_⟩
  · simpa [Setting.told?_cons, hv] using htold
  · exact h.displaced g (mt (hset g).mpr hg) ((hdisplaced g).mp hd)
  · exact h.kept g (mt (hset g).mpr hg) (mt (hdisplaced g).mpr hd)

private theorem cons_of_key {f : Setting} (hv : variableKey v.1 = some f.key)
    (h : Layered environment (f.put (variableValue v.2) fields) above) :
    Layered (v :: environment) fields above := by
  have hset (g : Setting) : g.IsSetBy (v :: environment) ↔ f = g ∨ g.IsSetBy environment := by
    rw [Setting.isSetBy_cons_iff, hv, Option.some_inj]
    exact or_congr_left ⟨Setting.key_injective, congrArg Setting.key⟩
  -- Putting `f` makes a table of its part, so later variables displace nothing there.
  have hlater (g : Setting) : g.IsDisplaced environment (f.put (variableValue v.2) fields) ↔
      g.part? ≠ f.part? ∧ g.IsDisplaced environment fields := by
    simp only [Setting.IsDisplaced, Setting.isNoTable_put_iff]
    constructor
    · rintro ⟨p, hg, ⟨hf, hp⟩, hother⟩
      exact ⟨fun hpart => hf (hpart ▸ hg), p, hg, hp, hother⟩
    · rintro ⟨hpart, p, hg, hp, hother⟩
      exact ⟨p, hg, ⟨fun hf => hpart (hg.trans hf.symm), hp⟩, hother⟩
  refine ⟨fun g text htold => ?_, fun g hg hd => ?_, fun g hg hd => ?_⟩
  · rw [Setting.told?_cons] at htold
    cases hrest : g.told? environment with
    | some rest =>
      rw [hrest, Option.some_or] at htold
      exact h.told g text (hrest.trans htold)
    | none =>
      rw [hrest, Option.none_or, Option.ite_none_right_eq_some] at htold
      obtain ⟨hkey, htext⟩ := htold
      obtain rfl := Setting.key_injective (Option.some_inj.mp (hv.symm.trans hkey))
      obtain rfl := Option.some_inj.mp htext
      have hunset := (Setting.told?_eq_none_iff f).mp hrest
      rw [h.kept f hunset fun hd => ((hlater f).mp hd).1 rfl, Setting.found_put_self]
  · rw [hset, not_or] at hg
    by_cases hpart : g.part? = f.part?
    · obtain ⟨p, hp, hnoTable, -⟩ := hd
      rw [h.kept g hg.2 fun hd => ((hlater g).mp hd).1 hpart]
      exact Setting.found_put_of_isNoTable (Ne.symm hg.1) _ hp (hpart ▸ hp) hnoTable
    · refine h.displaced g hg.2 ((hlater g).mpr ⟨hpart, ?_⟩)
      obtain ⟨p, hp, hnoTable, other, hother, hnamed⟩ := hd
      refine ⟨p, hp, hnoTable, other, hother, ((hset other).mp hnamed).resolve_left ?_⟩
      exact fun hf => hpart (by rw [hp, hf, hother])
  · rw [hset, not_or] at hg
    rw [h.kept g hg.2, Setting.found_put_of_ne (Ne.symm hg.1)]
    · exact fun p hp hf hnoTable => hd ⟨p, hp, hnoTable, f, hf, (hset f).mpr (.inl rfl)⟩
    · intro hlaterDisplaced
      obtain ⟨-, p, hp, hnoTable, other, hother, hnamed⟩ := (hlater g).mp hlaterDisplaced
      exact hd ⟨p, hp, hnoTable, other, hother, (hset other).mpr (.inr hnamed)⟩

end Layered

def AllNamed (environment : List (String × String)) : Prop :=
  ∀ v ∈ environment, ∀ key, variableKey v.1 = some key → ∃ f : Setting, f.key = key

section Singleton

variable {f : Setting} {name : String}

theorem allNamed_singleton (text : String) (h : variableKey name = some f.key) :
    AllNamed [(name, text)] := by
  intro v hv key hkey
  obtain rfl := List.mem_singleton.mp hv
  exact ⟨f, Option.some_inj.mp (h.symm.trans hkey)⟩

theorem Setting.isSetBy_singleton_iff (text : String) (h : variableKey name = some f.key)
    (g : Setting) :
    g.IsSetBy [(name, text)] ↔ g = f := by
  simp only [IsSetBy, List.mem_singleton, exists_eq_left, h, Option.some_inj]
  exact ⟨fun hkey => (key_injective hkey).symm, fun hg => by rw [hg]⟩

theorem Setting.told?_singleton (text : String) (h : variableKey name = some f.key) :
    f.told? [(name, text)] = some text := by
  simp [told?, h]

end Singleton

/-- Whatever table an environment is laid over, the result is a table with that effect. -/
theorem exists_layered (fields : List (String × Json)) (h : AllNamed environment) :
    ∃ above, layEnvironment environment (.object fields) = .object above ∧
      Layered environment fields above := by
  -- The first variable is laid before the others, so they meet the table that it leaves.
  induction environment generalizing fields with
  | nil => exact ⟨fields, rfl, .nil⟩
  | cons v environment ih =>
    have hrest : AllNamed environment := fun w hw => h w (List.mem_cons_of_mem _ hw)
    rw [layEnvironment, List.foldl_cons]
    cases hv : variableKey v.1 with
    | none =>
      obtain ⟨above, habove, hlayered⟩ := ih fields hrest
      exact ⟨above, habove, hlayered.cons_of_foreign hv⟩
    | some key =>
      obtain ⟨f, rfl⟩ := h v List.mem_cons_self key hv
      dsimp only
      rw [f.setAt_key (overlay_variableValue v.2)]
      obtain ⟨above, habove, hlayered⟩ := ih (f.put (variableValue v.2) fields) hrest
      exact ⟨above, habove, hlayered.cons_of_key hv⟩

theorem load_none :
    load none environment = ofJson lenient (layEnvironment environment (.object [])) :=
  rfl

end Config

end ClusterTransport

import ClusterTransport.Proofs.Config.Layers
import ClusterTransport.Proofs.Text.Numeral

/-!
# Texts from variables

The value of a variable is taken for a truth value, an integer or a number if it spells one, and a
setting that is a text gets that written out. Only values that are written as they would be written
out arrive as they are.
-/

namespace ClusterTransport.Config

open Text

def Setting.isText : Setting → Bool
  | endpoint | database | buildInfo | caPath | preferableLocation => true
  | _ => false

def Setting.text? : Setting → Config → Option String
  | endpoint => fun c => some c.endpoint
  | database => fun c => some c.database
  | buildInfo => fun c => some c.buildInfo
  | caPath => Config.caPath
  | preferableLocation => fun c => c.balancing.preferableLocation
  | _ => fun _ => none

private theorem Setting.read_of_isText {f : Setting} (hf : f.isText) {v : Json} {s : String}
    (h : lenientText v = some s) :
    ∃ x, f.read v = some x ∧ ∀ c, f.get c = x → f.text? c = some s := by
  have hoptional : readOptional lenientText v = some (some s) := by
    cases v with
    | null => cases h
    | _ => exact congrArg (Option.map some) h
  cases f <;> first
    | exact ⟨s, h, fun c hc => congrArg some hc⟩
    | exact ⟨some s, hoptional, fun c hc => hc⟩
    | cases hf

/-- What is made of the value of a variable where a text is asked for. -/
def written (v : String) : String :=
  if lower v = "true" ∨ lower v = "false" then lower v
  else
    match Numeral.readInt 0x7FFFFFFFFFFFFFFF v.toList with
    | .ok n => toString n
    | .error _ =>
      match Decimal.read? v.toList with
      | some x => Decimal.render x
      | none => v

private theorem lenientText_variableValue (v : String) :
    lenientText (variableValue v) = some (written v) := by
  rw [variableValue, written]
  by_cases htrue : lower v = "true"
  · simp [htrue, lenientText]
  · by_cases hfalse : lower v = "false"
    · simp [hfalse, lenientText]
    · simp only [htrue, hfalse, if_false, or_self]
      cases Numeral.readInt 0x7FFFFFFFFFFFFFFF v.toList with
      | ok n => rfl
      | error e =>
        cases Decimal.read? v.toList with
        | some x => rfl
        | none => rfl

/-- Values that arrive as they are: a truth value in lower case, an integer without plus sign or
leading zeros, a number in its shortest decimals, and whatever spells none of them. -/
structure IsVerbatim (v : String) : Prop where
  truth : lower v = "true" ∨ lower v = "false" → lower v = v
  integer : ∀ n, Numeral.readInt 0x7FFFFFFFFFFFFFFF v.toList = .ok n → Numeral.isCanonical v.toList
  decimal : ∀ e x, Numeral.readInt 0x7FFFFFFFFFFFFFFF v.toList = .error e →
    Decimal.read? v.toList = some x → Decimal.render x = v

private theorem isVerbatim_of_truth {v : String} (h : v = "true" ∨ v = "false") : IsVerbatim v := by
  cases h with
  | inl h =>
    subst h
    exact ⟨fun _ => by decide, nofun, nofun⟩
  | inr h =>
    subst h
    exact ⟨fun _ => by decide, nofun, nofun⟩

private theorem written_eq_self_iff (v : String) : written v = v ↔ IsVerbatim v := by
  rw [written]
  by_cases htruth : lower v = "true" ∨ lower v = "false"
  · rw [if_pos htruth]
    -- A truth value that stays as it is is one of two words, which spell no number.
    refine ⟨fun hv => isVerbatim_of_truth ?_, fun h => h.truth htruth⟩
    rwa [hv] at htruth
  · rw [if_neg htruth]
    cases hint : Numeral.readInt 0x7FFFFFFFFFFFFFFF v.toList with
    | ok n =>
      dsimp only
      rw [← String.toList_inj, Numeral.toList_toString_eq_iff hint]
      refine ⟨fun h => ⟨fun h' => absurd h' htruth, fun _ _ => h, fun e _ he => ?_⟩,
        fun h => h.integer n hint⟩
      cases hint.symm.trans he
    | error e =>
      have hnone (n : Int) : Numeral.readInt 0x7FFFFFFFFFFFFFFF v.toList ≠ .ok n := by
        simp [hint]
      cases hdecimal : Decimal.read? v.toList with
      | none =>
        refine iff_of_true rfl ⟨fun h' => absurd h' htruth, fun n hn => absurd hn (hnone n), ?_⟩
        intro _ x _ hx
        cases hdecimal.symm.trans hx
      | some x =>
        refine ⟨fun h => ⟨fun h' => absurd h' htruth, fun n hn => absurd hn (hnone n), ?_⟩,
          fun h => h.decimal e x hint hdecimal⟩
        intro _ y _ hy
        cases hdecimal.symm.trans hy
        exact h

variable {f : Setting} {name : String}

/-- A variable for a text always loads. The text is the value as it is written out, and the value
itself just when it is verbatim; all other settings have their defaults. -/
theorem load_textVariable (hf : f.isText) (hname : variableKey name = some f.key) (v : String) :
    ∃ c, load none [(name, v)] = some c ∧ f.text? c = some (written v) ∧
      (f.text? c = some v ↔ IsVerbatim v) ∧ ∀ g : Setting, g ≠ f → g.get c = g.default := by
  obtain ⟨above, habove, hlayered⟩ := exists_layered [] (allNamed_singleton v hname)
  obtain ⟨x, hx, htext⟩ := Setting.read_of_isText hf (lenientText_variableValue v)
  have hset : f.found above = some x := by
    rw [hlayered.told f v (Setting.told?_singleton v hname), hx]
  have hrest (g : Setting) (hg : g ≠ f) : g.found above = some g.default :=
    hlayered.found_of_nil (mt (Setting.isSetBy_singleton_iff v hname g).mp hg)
  obtain ⟨c, hc⟩ : ∃ c, ofJson lenient (.object above) = some c := by
    refine exists_ofJson fun g => ?_
    by_cases hg : g = f
    · subst hg
      exact ⟨x, hset⟩
    · exact ⟨_, hrest g hg⟩
  have hwritten : f.text? c = some (written v) := htext c (get_of_found hc hset)
  refine ⟨c, ?_, hwritten, ?_, fun g hg => ?_⟩
  · rw [load_none, habove, hc]
  · rw [hwritten, Option.some_inj, written_eq_self_iff]
  · exact get_of_found hc (hrest g hg)

theorem load_textVariable_negative :
    ∃ c, load none [("YDB_BALANCING__PREFERABLE_LOCATION", "-10")] = some c ∧
      c.balancing.preferableLocation = some "-10" ∧ c.database = "" := by
  have hname : variableKey "YDB_BALANCING__PREFERABLE_LOCATION" =
      some Setting.preferableLocation.key := by decide +kernel
  have hverbatim : IsVerbatim "-10" := ⟨fun h => by revert h; decide, fun _ _ => rfl, nofun⟩
  obtain ⟨c, hc, -, hlocation, hrest⟩ := load_textVariable rfl hname "-10"
  exact ⟨c, hc, hlocation.mpr hverbatim, hrest .database nofun⟩

/-- A database whose name has zeros in front of other digits loses them. -/
theorem database_of_zeros :
    variableKey "YDB_DATABASE" = some Setting.database.key ∧
      (load none [("YDB_DATABASE", "007")]).map Config.database = some "7" := by
  decide +kernel

end ClusterTransport.Config

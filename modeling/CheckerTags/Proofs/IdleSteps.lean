import CheckerTags.Flags.Step
import CheckerTags.Proofs.Simulation
import CheckerTags.Proofs.TextGrammar

/-!
# CheckerTags.Proofs.IdleSteps

Steps that leave every set as it is (`Flags.Step.Idle`): the questions, insertion under a name that
no constant has, and loads that are refused. A load is refused as a whole, so the parts of a text
that come before the bad one do not count. A run does not notice when such steps are left out.

* `Flags.step_eq_error`: the steps that fail are the idle loads.
* `Flags.after_idle`: one step.
-/

namespace CheckerTags
namespace Flags

variable {v : Vocab}

/-- Steps that leave every set as it is. -/
inductive Step.Idle : Step v → Prop where
  -- the value is not a string, or its text spells no set
  | refused {value : Json} :
      (∀ s, value = .str s → ∀ a : Flags v, ¬ Spells s.toList a) → Idle (.load value)
  | unnamed {name : String} : (∀ c ∈ v.constants, c.name ≠ name) → Idle (.insertName name)
  | contains (b : Flags v) : Idle (.contains b)
  | intersects (b : Flags v) : Idle (.intersects b)
  | isSet (b : Flags v) : Idle (.isSet b)

/-- The readers decide whether a step is idle. -/
def Step.isIdle : Step v → Bool
  | .insertName name => (ofName? name : Option (Flags v)).isNone
  | .load value =>
    match (ofJson value : Except Json.ReadError (Flags v)) with
    | .ok _ => false
    | .error _ => true
  | .contains _ => true
  | .intersects _ => true
  | .isSet _ => true
  | _ => false

theorem Step.isIdle_iff {s : Step v} : s.isIdle = true ↔ s.Idle := by
  cases s with
  | insertName name =>
    rw [isIdle, Option.isNone_iff_eq_none, ofName?_eq_none]
    exact ⟨.unnamed, fun | .unnamed h => h⟩
  | load value =>
    have hload : (Step.load value : Step v).Idle ↔
        ∃ e, (ofJson value : Except Json.ReadError (Flags v)) = .error e := by
      rw [exists_ofJson_error]
      exact ⟨fun | .refused h => h, .refused⟩
    rw [hload, isIdle]
    cases (ofJson value : Except Json.ReadError (Flags v)) <;> simp
  | contains b => exact ⟨fun _ => .contains b, fun _ => rfl⟩
  | intersects b => exact ⟨fun _ => .intersects b, fun _ => rfl⟩
  | isSet b => exact ⟨fun _ => .isSet b, fun _ => rfl⟩
  | _ => exact ⟨nofun, nofun⟩

instance (s : Step v) : Decidable s.Idle := decidable_of_iff (s.isIdle = true) Step.isIdle_iff

/-! ## One step -/

theorem after_idle {s : Step v} (h : s.Idle) (a : Flags v) : (Run.entry step a s).after = a := by
  cases h with
  | refused hvalue =>
    obtain ⟨e, he⟩ := exists_ofJson_error.mpr hvalue
    simp only [Run.entry, step, he]
  | unnamed hname => simp only [Run.entry, step, ofName?_eq_none.mpr hname]
  | contains b => rfl
  | intersects b => rfl
  | isSet b => rfl

theorem step_eq_error {a : Flags v} {s : Step v} :
    (∃ e, step a s = .error e) ↔ ∃ value, s = .load value ∧ s.Idle := by
  constructor
  · rintro ⟨e, h⟩
    cases s with
    | load value =>
      refine ⟨value, rfl, .refused (exists_ofJson_error.mp ?_)⟩
      cases hread : (ofJson value : Except Json.ReadError (Flags v)) with
      | ok b => simp only [step, hread] at h; cases h
      | error e' => exact ⟨e', rfl⟩
    | insertName name =>
      cases hname : (ofName? name : Option (Flags v)) <;> simp only [step, hname] at h <;> cases h
    | _ => cases h
  · rintro ⟨value, rfl, hidle⟩
    cases hidle with
    | refused hvalue =>
      obtain ⟨e, he⟩ := exists_ofJson_error.mpr hvalue
      exact ⟨e, by simp only [step, he]⟩

/-! ## Runs -/

/-- The steps that fail are the loads of what spells no set; they and the other idle steps change
nothing, and a run without them has the entries of the others as they were. -/
theorem idle_steps_unnoticed (v : Vocab) :
    (∀ (start : Flags v) (steps : List (Step v)), (start.run steps).length = steps.length) ∧
    (∀ (a : Flags v) (s : Step v),
      (∃ e, step a s = .error e) ↔ ∃ value, s = .load value ∧ s.Idle) ∧
    (∀ (start : Flags v) (steps : List (Step v)) (i : Nat) (s : Step v),
      steps[i]? = some s → s.Idle →
        ∃ x, (start.run steps)[i]? = some x ∧ x.after = start.final (steps.take i)) ∧
    (∀ (start : Flags v) (steps : List (Step v)),
      start.run (steps.filter fun s => ¬ s.Idle) =
        ((steps.zip (start.run steps)).filter fun p => ¬ p.1.Idle).map Prod.snd ∧
      start.final (steps.filter fun s => ¬ s.Idle) = start.final steps) := by
  refine ⟨?_, ?_, ?_, ?_⟩
  · intro start steps
    exact Run.length_entries step start steps
  · intro a s
    exact step_eq_error
  · intro start steps i s hs hidle
    refine ⟨Run.entry step (start.final (steps.take i)) s, ?_, after_idle hidle _⟩
    rw [run, Run.getElem?_entries, hs]
    rfl
  · intro start steps
    have hkeep : ∀ s ∈ steps, decide (¬ s.Idle) = false →
        ∀ a, (Run.entry step a s).after = a := by
      intro s _ hs
      exact after_idle (by simpa using hs)
    exact ⟨Run.entries_filter hkeep start, Run.final_filter hkeep start⟩

/-- The load is refused at its second part. -/
theorem idle_steps_unnoticed_bad_second_part :
    let steps : List (Step .object) :=
      [.insertName "TUPLE", .load (.str "CLASS | 0x"), .insertName "UNION", .toggle ⟨0x80000008⟩]
    let x : Entry ObjectFlags Json.ReadError (Reply .object) :=
      ⟨.error (.badText .invalidHex), ⟨8⟩⟩
    steps[1]? = some (.load (.str "CLASS | 0x")) ∧
    (Step.load (.str "CLASS | 0x") : Step .object).Idle ∧
    (∃ x, ((∅ : ObjectFlags).run steps)[1]? = some x ∧
      x.after = (∅ : ObjectFlags).final (steps.take 1)) ∧
    ((∅ : ObjectFlags).run steps)[1]? = some x := by
  intro steps x
  have hidle : (Step.load (.str "CLASS | 0x") : Step .object).Idle := by decide
  obtain ⟨_, _, hafter, _⟩ := idle_steps_unnoticed .object
  exact ⟨rfl, hidle, hafter ∅ steps 1 _ rfl hidle, rfl⟩

end Flags
end CheckerTags

import CheckerTags.Flags.Step
import Mathlib.Data.List.DropRight
import Mathlib.Logic.Function.Iterate

/-!
# CheckerTags.Proofs.BitLaw

What a run does to one bit. Every step has one of three effects on it: it fixes the bit, flips it
or keeps it (`Flags.Step.effect`), and which one does not depend on the set that the step is taken
on. So a bit is, after a run, what the last step that fixes it says, negated once for every flip
after that step.

* `Flags.mem_after`: a step has its effect.
* `Flags.mem_final_eq_foldl`: a run has the effects of its steps, one after the other.
* `Effect.foldl_apply`: of a list of effects, the last fixed value and the later flips remain.
-/

namespace CheckerTags

/-- What can happen to a bit. -/
inductive Effect where
  | fix (b : Bool)
  | flip
  | keep
  deriving DecidableEq

namespace Effect

def apply : Effect → Bool → Bool
  | .fix b, _ => b
  | .flip, x => !x
  | .keep, x => x

@[simp] theorem apply_fix (b x : Bool) : (fix b).apply x = b := rfl
@[simp] theorem apply_flip (x : Bool) : flip.apply x = !x := rfl
@[simp] theorem apply_keep (x : Bool) : keep.apply x = x := rfl

def fixed? : Effect → Option Bool
  | .fix b => some b
  | .flip => none
  | .keep => none

/-- The value that the last fixing effect gives, if there is one. -/
def lastFixed? (es : List Effect) : Option Bool := (es.filterMap fixed?).getLast?

/-- How often the bit is flipped after the last fixing effect; in all, if there is none. -/
def flipsSince (es : List Effect) : Nat := (es.rtakeWhile fun e => e.fixed?.isNone).count .flip

theorem lastFixed?_concat (es : List Effect) (e : Effect) :
    lastFixed? (es ++ [e]) = e.fixed?.or (lastFixed? es) := by
  unfold lastFixed?
  cases e <;> simp [fixed?]

theorem flipsSince_concat (es : List Effect) (e : Effect) :
    flipsSince (es ++ [e]) =
      match e with
      | .fix _ => 0
      | .flip => flipsSince es + 1
      | .keep => flipsSince es := by
  unfold flipsSince
  cases e <;> simp [fixed?]

theorem foldl_apply (es : List Effect) (x : Bool) :
    es.foldl (fun x e => e.apply x) x = not^[flipsSince es] ((lastFixed? es).getD x) := by
  -- from the right: a fix at the end forgets everything before it
  induction es using List.reverseRecOn with
  | nil => rfl
  | append_singleton es e ih =>
    rw [List.foldl_append, List.foldl_cons, List.foldl_nil, ih, lastFixed?_concat,
      flipsSince_concat]
    cases e with
    | fix b => rfl
    | flip => exact (Function.iterate_succ_apply' not (flipsSince es) _).symm
    | keep => rfl

theorem foldl_apply_filter (es : List Effect) (x : Bool) :
    (es.filter (· ≠ .keep)).foldl (fun x e => e.apply x) x =
      es.foldl (fun x e => e.apply x) x := by
  induction es generalizing x with
  | nil => rfl
  | cons e es ih =>
    cases e with
    | fix b =>
      rw [List.filter_cons_of_pos (by simp)]
      exact ih b
    | flip =>
      rw [List.filter_cons_of_pos (by simp)]
      exact ih (!x)
    | keep =>
      rw [List.filter_cons_of_neg (by simp)]
      exact ih x

end Effect

namespace Flags

variable {v : Vocab}

/-- The effect of a step on bit `i`. -/
def Step.effect (i : Nat) : Step v → Effect
  | .insert b => if i ∈ b then .fix true else .keep
  | .remove b => if i ∈ b then .fix false else .keep
  | .toggle b => if i ∈ b then .flip else .keep
  | .union b => if i ∈ b then .fix true else .keep
  | .inter b => if i ∈ b then .keep else .fix false
  | .sdiff b => if i ∈ b then .fix false else .keep
  | .symmDiff b => if i ∈ b then .flip else .keep
  | .set b on => if i ∈ b then .fix on else .keep
  | .compl => if i ∈ known v then .flip else .fix false
  | .truncate => if i ∈ known v then .keep else .fix false
  | .clear => .fix false
  | .all => .fix (decide (i ∈ known v))
  | .extend items => if ∃ b ∈ items, i ∈ b then .fix true else .keep
  | .collect items => .fix (decide (∃ b ∈ items, i ∈ b))
  | .insertName name =>
    match (ofName? name : Option (Flags v)) with
    | some b => if i ∈ b then .fix true else .keep
    | none => .keep
  | .load value =>
    match (ofJson value : Except Json.ReadError (Flags v)) with
    | .ok b => .fix (decide (i ∈ b))
    | .error _ => .keep
  | .contains _ => .keep
  | .intersects _ => .keep
  | .isSet _ => .keep

/-! ## One step -/

theorem mem_union_effect (i : Nat) (a b : Flags v) :
    decide (i ∈ a ∪ b) = (if i ∈ b then Effect.fix true else .keep).apply (decide (i ∈ a)) := by
  by_cases h : i ∈ b <;> simp [h]

theorem mem_sdiff_effect (i : Nat) (a b : Flags v) :
    decide (i ∈ a \ b) = (if i ∈ b then Effect.fix false else .keep).apply (decide (i ∈ a)) := by
  by_cases h : i ∈ b <;> simp [h]

theorem mem_symmDiff_effect (i : Nat) (a b : Flags v) :
    decide (i ∈ a.symmDiff b) = (if i ∈ b then Effect.flip else .keep).apply (decide (i ∈ a)) := by
  by_cases h : i ∈ b <;> simp [h]

theorem mem_inter_effect (i : Nat) (a b : Flags v) :
    decide (i ∈ a ∩ b) = (if i ∈ b then Effect.keep else .fix false).apply (decide (i ∈ a)) := by
  by_cases h : i ∈ b <;> simp [h]

theorem mem_after (a : Flags v) (s : Step v) (i : Nat) :
    decide (i ∈ (Run.entry step a s).after) = (s.effect i).apply (decide (i ∈ a)) := by
  cases s with
  | insert b => exact mem_union_effect i a b
  | remove b => exact mem_sdiff_effect i a b
  | toggle b => exact mem_symmDiff_effect i a b
  | union b => exact mem_union_effect i a b
  | inter b => exact mem_inter_effect i a b
  | sdiff b => exact mem_sdiff_effect i a b
  | symmDiff b => exact mem_symmDiff_effect i a b
  | set b on =>
    cases on with
    | true => exact mem_union_effect i a b
    | false => exact mem_sdiff_effect i a b
  | compl =>
    by_cases h : i ∈ known v <;> simp [Run.entry, step, Step.effect, h]
  | truncate => exact mem_inter_effect i a (known v)
  | clear => simp [Run.entry, step, Step.effect]
  | all => rfl
  | extend items =>
    by_cases h : ∃ b ∈ items, i ∈ b <;>
      simp [Run.entry, step, Step.effect, mem_foldl_union, h]
  | collect items => simp [Run.entry, step, Step.effect]
  | insertName name =>
    cases h : (ofName? name : Option (Flags v)) with
    | none => simp [Run.entry, step, Step.effect, h]
    | some b =>
      simp only [Run.entry, step, Step.effect, h]
      exact mem_union_effect i a b
  | load value =>
    cases h : (ofJson value : Except Json.ReadError (Flags v)) with
    | error e => simp [Run.entry, step, Step.effect, h]
    | ok b => simp [Run.entry, step, Step.effect, h]
  | contains b => rfl
  | intersects b => rfl
  | isSet b => rfl

/-! ## Runs -/

theorem mem_final_eq_foldl (a : Flags v) (steps : List (Step v)) (i : Nat) :
    decide (i ∈ a.final steps) =
      (steps.map (Step.effect i)).foldl (fun x e => e.apply x) (decide (i ∈ a)) := by
  induction steps generalizing a with
  | nil => rfl
  | cons s steps ih =>
    have hfinal : a.final (s :: steps) = (Run.entry step a s).after.final steps := rfl
    rw [hfinal, ih, mem_after]
    rfl

/-- A bit is, at the end of a run, what the last step that fixes it says, or else as it was at the
start, negated once for every flip since. What is done to other bits does not matter. -/
theorem last_fixed_then_flipped (v : Vocab) :
    (∀ (start : Flags v) (steps : List (Step v)) (i : Nat),
      decide (i ∈ start.final steps) =
        not^[Effect.flipsSince (steps.map (Step.effect i))]
          ((Effect.lastFixed? (steps.map (Step.effect i))).getD (decide (i ∈ start)))) ∧
    (∀ (a b : Flags v) (ss ts : List (Step v)) (i : Nat), (i ∈ a ↔ i ∈ b) →
      (ss.map (Step.effect i)).filter (· ≠ .keep) = (ts.map (Step.effect i)).filter (· ≠ .keep) →
      (i ∈ a.final ss ↔ i ∈ b.final ts)) := by
  constructor
  · intro start steps i
    rw [mem_final_eq_foldl, Effect.foldl_apply]
  · intro a b ss ts i hstart heffects
    have hbit : decide (i ∈ a.final ss) = decide (i ∈ b.final ts) := by
      rw [mem_final_eq_foldl, mem_final_eq_foldl, ← Effect.foldl_apply_filter (ss.map _),
        heffects, Effect.foldl_apply_filter, decide_eq_decide.mpr hstart]
    exact decide_eq_decide.mp hbit

/-- A bit without a name: a refused text keeps it, complement and truncation both clear it. -/
theorem last_fixed_then_flipped_unknown_bit :
    let ss : List (Step .modifier) := [.load (.str "PUBLIC | 0x"), .compl, .toggle ⟨0x00100001⟩]
    let ts : List (Step .modifier) := [.truncate, .insert ⟨1⟩, .symmDiff ⟨0xfff00000⟩]
    (20 ∈ (⟨0xffffffff⟩ : ModifierFlags) ↔ 20 ∈ (⟨0x00100000⟩ : ModifierFlags)) ∧
    (ss.map (Step.effect 20)).filter (· ≠ .keep) = (ts.map (Step.effect 20)).filter (· ≠ .keep) ∧
    (20 ∈ (⟨0xffffffff⟩ : ModifierFlags).final ss ↔ 20 ∈ (⟨0x00100000⟩ : ModifierFlags).final ts) := by
  intro ss ts
  have hstart : 20 ∈ (⟨0xffffffff⟩ : ModifierFlags) ↔ 20 ∈ (⟨0x00100000⟩ : ModifierFlags) := by
    decide
  have heffects : (ss.map (Step.effect 20)).filter (· ≠ .keep) =
      (ts.map (Step.effect 20)).filter (· ≠ .keep) := by
    decide
  exact ⟨hstart, heffects, (last_fixed_then_flipped .modifier).2 _ _ ss ts 20 hstart heffects⟩

end Flags
end CheckerTags

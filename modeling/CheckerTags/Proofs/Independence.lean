import CheckerTags.Proofs.BitLaw
import Mathlib.Data.List.Pairwise

/-!
# CheckerTags.Proofs.Independence

Steps whose order does not matter. A step touches some bits of the word (`Flags.Step.touched`), and
what it makes of a bit depends on that bit and on no other. So two steps that touch no bit in common
can change places, and so can all steps of a run of which no two touch a bit in common. Steps that
only flip bits need not even be apart: of a run of such steps the sum of the flips remains.

* `Flags.Step.mem_touched`: the touched bits are those that a step has an effect on.
* `Flags.after_comm`: two steps that are apart.
* `Run.final_perm`: runs of steps that commute.
* `Flags.final_of_flips`: runs of flips.
-/

namespace CheckerTags

/-! ## Steps that commute -/

namespace Run

variable {σ τ ε ρ : Type}

/-- Two steps lead to the same state in either order. -/
def Commutes (step : σ → τ → Except ε (ρ × σ)) (t u : τ) : Prop :=
  ∀ s, (entry step (entry step s t).after u).after = (entry step (entry step s u).after t).after

variable {step : σ → τ → Except ε (ρ × σ)}

instance : Std.Symm (Commutes step) where
  symm _ _ h s := (h s).symm

theorem final_eq_foldl (s : σ) (ts : List τ) :
    final step s ts = ts.foldl (fun s t => (entry step s t).after) s := by
  induction ts generalizing s with
  | nil => rfl
  | cons t ts ih => exact ih _

theorem final_perm {ts us : List τ} (hperm : ts.Perm us) (h : ts.Pairwise (Commutes step))
    (s : σ) : final step s ts = final step s us := by
  -- a step that stands twice in the list commutes with itself
  have hall : ∀ t ∈ ts, ∀ u ∈ ts, Commutes step t u :=
    h.forall_of_forall fun _ _ _ => rfl
  rw [final_eq_foldl, final_eq_foldl]
  refine hperm.foldl_eq' ?_ s
  intro t ht u hu
  exact hall t ht u hu

end Run

namespace Flags

variable {v : Vocab}

/-! ## The bits that a step touches -/

/-- The set of all bits, those without a name among them. -/
def whole : Flags v := ⟨BitVec.allOnes 32⟩

@[simp] theorem mem_whole {i : Nat} : i ∈ (whole : Flags v) ↔ i < 32 := by
  rw [mem_def, whole, BitVec.getLsbD_allOnes, decide_eq_true_iff]

/-- The bits that a step may change: of an edit, those that it is given. -/
def Step.touched : Step v → Flags v
  | .insert b => b
  | .remove b => b
  | .toggle b => b
  | .union b => b
  | .inter b => whole \ b
  | .sdiff b => b
  | .symmDiff b => b
  | .set b _ => b
  | .compl => whole
  | .truncate => whole \ known v
  | .clear => whole
  | .all => whole
  | .extend items => unionAll items
  | .collect _ => whole
  | .insertName name => (ofName? name).getD ∅
  | .load value =>
    match (ofJson value : Except Json.ReadError (Flags v)) with
    | .ok _ => whole
    | .error _ => ∅
  | .contains _ => ∅
  | .intersects _ => ∅
  | .isSet _ => ∅

theorem mem_iff_not_kept {i : Nat} {b : Flags v} {e : Effect} (he : e ≠ .keep) :
    i ∈ b ↔ i < 32 ∧ (if i ∈ b then e else .keep) ≠ .keep := by
  by_cases h : i ∈ b
  · simp [h, he, lt_of_mem h]
  · simp [h]

theorem mem_whole_sdiff_iff_not_kept {i : Nat} {b : Flags v} :
    i ∈ whole \ b ↔ i < 32 ∧ (if i ∈ b then Effect.keep else .fix false) ≠ .keep := by
  by_cases h : i ∈ b <;> simp [h]

theorem Step.mem_touched {s : Step v} {i : Nat} :
    i ∈ s.touched ↔ i < 32 ∧ s.effect i ≠ .keep := by
  cases s with
  | insert b => exact mem_iff_not_kept (by simp)
  | remove b => exact mem_iff_not_kept (by simp)
  | toggle b => exact mem_iff_not_kept (by simp)
  | union b => exact mem_iff_not_kept (by simp)
  | inter b => exact mem_whole_sdiff_iff_not_kept
  | sdiff b => exact mem_iff_not_kept (by simp)
  | symmDiff b => exact mem_iff_not_kept (by simp)
  | set b on => exact mem_iff_not_kept (by simp)
  | compl => by_cases h : i ∈ known v <;> simp [touched, effect, h]
  | truncate => exact mem_whole_sdiff_iff_not_kept
  | clear => simp [touched, effect]
  | all => simp [touched, effect]
  | extend items =>
    simp only [touched, effect, ← mem_unionAll]
    exact mem_iff_not_kept (by simp)
  | collect items => simp [touched, effect]
  | insertName name =>
    cases h : (ofName? name : Option (Flags v)) with
    | none => simp [touched, effect, h]
    | some b =>
      simp only [touched, effect, h, Option.getD_some]
      exact mem_iff_not_kept (by simp)
  | load value =>
    cases h : (ofJson value : Except Json.ReadError (Flags v)) <;> simp [touched, effect, h]
  | contains b => simp [touched, effect]
  | intersects b => simp [touched, effect]
  | isSet b => simp [touched, effect]

theorem mem_after_of_not_touched {s : Step v} {i : Nat} (h : ¬ i ∈ s.touched) (a : Flags v) :
    i ∈ (Run.entry step a s).after ↔ i ∈ a := by
  by_cases hi : i < 32
  · have heffect : s.effect i = .keep := by
      by_contra hne
      exact h (Step.mem_touched.mpr ⟨hi, hne⟩)
    have hafter := mem_after a s i
    rw [heffect, Effect.apply_keep] at hafter
    exact decide_eq_decide.mp hafter
  · exact ⟨fun hm => absurd (lt_of_mem hm) hi, fun hm => absurd (lt_of_mem hm) hi⟩

/-- What a step makes of a bit does not depend on the other bits. -/
theorem mem_after_congr {a b : Flags v} {i : Nat} (h : i ∈ a ↔ i ∈ b) (s : Step v) :
    i ∈ (Run.entry step a s).after ↔ i ∈ (Run.entry step b s).after := by
  rw [← decide_eq_decide, mem_after, mem_after, decide_eq_decide.mpr h]

theorem after_comm {s t : Step v} (h : s.touched ∩ t.touched = ∅) : Run.Commutes step s t := by
  intro a
  apply ext_mem
  intro i
  -- one of the two steps leaves the bit alone, so only the other one counts
  by_cases hs : i ∈ s.touched
  · have ht : ¬ i ∈ t.touched := inter_eq_empty.mp h i hs
    calc i ∈ (Run.entry step (Run.entry step a s).after t).after
      _ ↔ i ∈ (Run.entry step a s).after := mem_after_of_not_touched ht _
      _ ↔ i ∈ (Run.entry step (Run.entry step a t).after s).after :=
        mem_after_congr (mem_after_of_not_touched ht a).symm s
  · calc i ∈ (Run.entry step (Run.entry step a s).after t).after
      _ ↔ i ∈ (Run.entry step a t).after := mem_after_congr (mem_after_of_not_touched hs a) t
      _ ↔ i ∈ (Run.entry step (Run.entry step a t).after s).after :=
        (mem_after_of_not_touched hs _).symm

/-! ## Runs -/

/-- The bits that some step of a list touches. -/
def touchedBy (steps : List (Step v)) : Flags v := unionAll (steps.map Step.touched)

theorem mem_final_of_not_touched {steps : List (Step v)} {i : Nat} (h : ¬ i ∈ touchedBy steps)
    (start : Flags v) : i ∈ start.final steps ↔ i ∈ start := by
  induction steps generalizing start with
  | nil => exact Iff.rfl
  | cons s steps ih =>
    rw [touchedBy, List.map_cons, unionAll_cons, mem_union, not_or] at h
    exact (ih h.2 _).trans (mem_after_of_not_touched h.1 start)

theorem final_sdiff_touchedBy (start : Flags v) (steps : List (Step v)) :
    start.final steps \ touchedBy steps = start \ touchedBy steps := by
  apply ext_mem
  intro i
  simp only [mem_sdiff]
  exact and_congr_left fun h => mem_final_of_not_touched h start

theorem final_perm {steps order : List (Step v)} (hperm : steps.Perm order)
    (h : steps.Pairwise fun s t => s.touched ∩ t.touched = ∅) (start : Flags v) :
    start.final steps = start.final order :=
  Run.final_perm hperm (h.imp after_comm) start

/-! ## Flips -/

/-- The bits that occur in an odd number of sets. -/
def symmDiffAll (items : List (Flags v)) : Flags v := items.foldr symmDiff ∅

/-- The bits that a step flips, if it does nothing but flip bits. -/
def Step.flipped? : Step v → Option (Flags v)
  | .toggle b => some b
  | .symmDiff b => some b
  | _ => none

theorem after_of_flipped {s : Step v} {b : Flags v} (h : s.flipped? = some b) (a : Flags v) :
    (Run.entry step a s).after = a.symmDiff b := by
  cases s with
  | toggle c => cases h; rfl
  | symmDiff c => cases h; rfl
  | _ => cases h

theorem final_of_flips {steps : List (Step v)} (h : ∀ s ∈ steps, s.flipped?.isSome = true)
    (start : Flags v) :
    start.final steps = start.symmDiff (symmDiffAll (steps.filterMap Step.flipped?)) := by
  induction steps generalizing start with
  | nil => exact (symmDiff_empty start).symm
  | cons s steps ih =>
    obtain ⟨hs, hsteps⟩ := List.forall_mem_cons.mp h
    obtain ⟨b, hb⟩ := Option.isSome_iff_exists.mp hs
    calc start.final (s :: steps)
      _ = (start.symmDiff b).final steps := by
        rw [← after_of_flipped hb]
        rfl
      _ = start.symmDiff (b.symmDiff (symmDiffAll (steps.filterMap Step.flipped?))) := by
        rw [ih hsteps, symmDiff_assoc]
      _ = start.symmDiff (symmDiffAll ((s :: steps).filterMap Step.flipped?)) := by
        rw [List.filterMap_cons_some hb]
        rfl

/-- Steps of which no two touch a bit in common lead to the same set in every order, and leave all
other bits as they were. Runs of flips end alike if and only if the sums of their flips are the
same. -/
theorem independent_steps_commute (v : Vocab) :
    (∀ (start : Flags v) (steps order : List (Step v)),
      steps.Pairwise (fun s t => s.touched ∩ t.touched = ∅) → steps.Perm order →
        start.final order = start.final steps ∧
        start.final order \ touchedBy steps = start \ touchedBy steps) ∧
    (∀ (start : Flags v) (ss ts : List (Step v)),
      (∀ s ∈ ss, s.flipped?.isSome = true) → (∀ t ∈ ts, t.flipped?.isSome = true) →
        (start.final ss = start.final ts ↔
          symmDiffAll (ss.filterMap Step.flipped?) = symmDiffAll (ts.filterMap Step.flipped?))) := by
  constructor
  · intro start steps order hapart hperm
    have hfinal := final_perm hperm hapart start
    refine ⟨hfinal.symm, ?_⟩
    rw [← hfinal]
    exact final_sdiff_touchedBy start steps
  · intro start ss ts hss hts
    rw [final_of_flips hss, final_of_flips hts, symmDiff_right_inj]

/-- Nine kinds of edit with bits of their own, some of them without a name, and an unknown name;
then a bit that one run flips twice and the other never. -/
theorem independent_steps_commute_nine_kinds :
    let start : TypeFlags := ⟨0xa0000555⟩
    let steps : List (Step .type) := [.insert ⟨0x3⟩, .remove ⟨0x4⟩, .toggle ⟨0x80000018⟩,
      .set ⟨0x40⟩ false, .union ⟨0x40000100⟩, .sdiff ⟨0x20000400⟩, .symmDiff ⟨0x1000⟩,
      .extend [⟨0x8000⟩, ⟨0x4000⟩, ⟨0x8000⟩], .insertName "UNION_OR_INTERSECTION",
      .insertName "TUPLE"]
    let ss : List (Step .type) := [.toggle ⟨0x80000001⟩, .symmDiff ⟨0x6⟩, .toggle ⟨0x80000002⟩]
    let ts : List (Step .type) := [.symmDiff ⟨0x4⟩, .toggle ⟨0x1⟩]
    steps.Pairwise (fun s t => s.touched ∩ t.touched = ∅) ∧ steps.Perm steps.reverse ∧
    (start.final steps.reverse = start.final steps ∧
      start.final steps.reverse \ touchedBy steps = start \ touchedBy steps) ∧
    ((∀ s ∈ ss, s.flipped?.isSome = true) ∧ (∀ t ∈ ts, t.flipped?.isSome = true) ∧
      symmDiffAll (ss.filterMap Step.flipped?) = symmDiffAll (ts.filterMap Step.flipped?) ∧
      start.final ss = start.final ts) := by
  intro start steps ss ts
  have hapart : steps.Pairwise fun s t => s.touched ∩ t.touched = ∅ := by decide
  have hperm : steps.Perm steps.reverse := (List.reverse_perm steps).symm
  have hss : ∀ s ∈ ss, s.flipped?.isSome = true := by simp [ss, Step.flipped?]
  have hts : ∀ t ∈ ts, t.flipped?.isSome = true := by simp [ts, Step.flipped?]
  have hsum : symmDiffAll (ss.filterMap Step.flipped?) =
      symmDiffAll (ts.filterMap Step.flipped?) := by decide
  obtain ⟨horder, hflips⟩ := independent_steps_commute .type
  exact ⟨hapart, hperm, horder start steps _ hapart hperm,
    hss, hts, hsum, (hflips start ss ts hss hts).mpr hsum⟩

end Flags
end CheckerTags

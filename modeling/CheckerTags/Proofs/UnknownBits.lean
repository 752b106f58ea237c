import CheckerTags.Proofs.BitLaw
import CheckerTags.Proofs.KnownBits

/-!
# CheckerTags.Proofs.UnknownBits

Where bits without a name come from. A step can add such a bit only out of the sets that it is given
or that it reads (`Flags.Step.sources`); the names of a vocabulary and the complement add none. So a
bit without a name that is there after a run was there at the start, or in one of these sets. When
they all keep to the named bits, so does the run.

* `Flags.not_mem_after`: one step.
* `Flags.not_mem_final`: a run.
* `Flags.final_subset_known`: a run that keeps to the named bits.
-/

namespace CheckerTags
namespace Flags

variable {v : Vocab}

/-- The sets whose bits a step can add, those without a name among them. -/
def Step.sources : Step v → List (Flags v)
  | .insert b => [b]
  | .toggle b => [b]
  | .union b => [b]
  | .symmDiff b => [b]
  | .set b true => [b]
  | .extend items => items
  | .collect items => items
  | .load value =>
    match (ofJson value : Except Json.ReadError (Flags v)) with
    | .ok b => [b]
    | .error _ => []
  | _ => []

/-! ## One step -/

theorem not_mem_of_ofName? {name : String} {b : Flags v} {i : Nat} (hb : ofName? name = some b)
    (hi : ¬ i ∈ known v) : ¬ i ∈ b := by
  obtain ⟨c, hc, _, rfl⟩ := ofName?_eq_some.mp hb
  intro hib
  exact hi (flags_subset_known hc i hib)

theorem Step.effect_of_unknown {s : Step v} {i : Nat} (hi : ¬ i ∈ known v)
    (hs : ∀ b ∈ s.sources, ¬ i ∈ b) : s.effect i = .keep ∨ s.effect i = .fix false := by
  cases s with
  | insert b => exact .inl (if_neg (hs b (by simp [sources])))
  | remove b => by_cases h : i ∈ b <;> simp [effect, h]
  | toggle b => exact .inl (if_neg (hs b (by simp [sources])))
  | union b => exact .inl (if_neg (hs b (by simp [sources])))
  | inter b => by_cases h : i ∈ b <;> simp [effect, h]
  | sdiff b => by_cases h : i ∈ b <;> simp [effect, h]
  | symmDiff b => exact .inl (if_neg (hs b (by simp [sources])))
  | set b on =>
    cases on with
    | true => exact .inl (if_neg (hs b (by simp [sources])))
    | false => by_cases h : i ∈ b <;> simp [effect, h]
  | compl => exact .inr (if_neg hi)
  | truncate => exact .inr (if_neg hi)
  | clear => exact .inr rfl
  | all => exact .inr (by simp [effect, hi])
  | extend items =>
    have hnone : ¬ ∃ b ∈ items, i ∈ b := by
      rintro ⟨b, hb, hib⟩
      exact hs b hb hib
    exact .inl (if_neg hnone)
  | collect items =>
    have hnone : ¬ ∃ b ∈ items, i ∈ b := by
      rintro ⟨b, hb, hib⟩
      exact hs b hb hib
    exact .inr (by simp only [effect, decide_eq_false hnone])
  | insertName name =>
    cases hname : (ofName? name : Option (Flags v)) with
    | none => exact .inl (by simp only [effect, hname])
    | some b => exact .inl (by simp only [effect, hname, if_neg (not_mem_of_ofName? hname hi)])
  | load value =>
    cases hread : (ofJson value : Except Json.ReadError (Flags v)) with
    | error e => exact .inl (by simp only [effect, hread])
    | ok b =>
      have hib : ¬ i ∈ b := hs b (by simp [sources, hread])
      exact .inr (by simp only [effect, hread, decide_eq_false hib])
  | contains b => exact .inl rfl
  | intersects b => exact .inl rfl
  | isSet b => exact .inl rfl

theorem not_mem_after {a : Flags v} {s : Step v} {i : Nat} (hi : ¬ i ∈ known v)
    (hs : ∀ b ∈ s.sources, ¬ i ∈ b) (ha : ¬ i ∈ a) : ¬ i ∈ (Run.entry step a s).after := by
  have hafter := mem_after a s i
  rcases Step.effect_of_unknown hi hs with heffect | heffect
  · rw [heffect, Effect.apply_keep, decide_eq_false ha] at hafter
    exact of_decide_eq_false hafter
  · rw [heffect, Effect.apply_fix] at hafter
    exact of_decide_eq_false hafter

/-- Whatever a step leaves of the set, after these steps there is no bit without a name. -/
theorem unknown_after_eq_empty {s : Step v} (hs : s ∈ [.compl, .truncate, .clear, .all])
    (a : Flags v) : (Run.entry step a s).after.unknown = ∅ := by
  rw [unknown_eq_empty]
  intro i hi
  by_contra hunknown
  have heffect : s.effect i = .fix false := by
    simp only [List.mem_cons, List.not_mem_nil, or_false] at hs
    rcases hs with rfl | rfl | rfl | rfl
    · exact if_neg hunknown
    · exact if_neg hunknown
    · rfl
    · exact congrArg Effect.fix (decide_eq_false hunknown)
  have hafter := mem_after a s i
  rw [heffect, Effect.apply_fix, decide_eq_true hi] at hafter
  cases hafter

/-! ## Runs -/

theorem not_mem_final {start : Flags v} {steps : List (Step v)} {i : Nat} (hi : ¬ i ∈ known v)
    (hs : ∀ b ∈ steps.flatMap Step.sources, ¬ i ∈ b) (hstart : ¬ i ∈ start) :
    ¬ i ∈ start.final steps := by
  induction steps generalizing start with
  | nil => exact hstart
  | cons s steps ih =>
    rw [List.flatMap_cons, List.forall_mem_append] at hs
    exact ih hs.2 (not_mem_after hi hs.1 hstart)

theorem unknown_final_subset (start : Flags v) (steps : List (Step v)) :
    (start.final steps).unknown ⊆
      unionAll ((start :: steps.flatMap Step.sources).map unknown) := by
  intro i hi
  obtain ⟨hmem, hunknown⟩ := mem_unknown.mp hi
  by_contra hnone
  have hsets : ∀ b ∈ start :: steps.flatMap Step.sources, ¬ i ∈ b := by
    intro b hb hib
    apply hnone
    exact mem_unionAll.mpr ⟨b.unknown, List.mem_map_of_mem hb, mem_unknown.mpr ⟨hib, hunknown⟩⟩
  obtain ⟨hstart, hsources⟩ := List.forall_mem_cons.mp hsets
  exact not_mem_final hunknown hsources hstart hmem

theorem final_subset_known {start : Flags v} {steps : List (Step v)} (hstart : start ⊆ known v)
    (hs : ∀ b ∈ steps.flatMap Step.sources, b ⊆ known v) : start.final steps ⊆ known v := by
  intro i hi
  by_contra hunknown
  exact not_mem_final hunknown (fun b hb hib => hunknown (hs b hb i hib))
    (fun hib => hunknown (hstart i hib)) hi

/-- Bits without a name come from the start of a run or from a source of one of its steps, and none
is left by a step that keeps to the named bits. Without such sources a run has only states that pass
`ofBits?` and are written by names alone. -/
theorem unknown_bits_have_sources (v : Vocab) :
    (∀ (start : Flags v) (steps : List (Step v)) (n : Nat),
      (start.final (steps.take n)).unknown ⊆
        unionAll ((start :: (steps.take n).flatMap Step.sources).map unknown)) ∧
    (∀ (start : Flags v) (steps : List (Step v)) (s : Step v),
      s ∈ [.compl, .truncate, .clear, .all] → (start.final (steps ++ [s])).unknown = ∅) ∧
    (∀ (start : Flags v) (steps : List (Step v)), start ⊆ known v →
      (∀ b ∈ steps.flatMap Step.sources, b ⊆ known v) →
        ∀ n, let a := start.final (steps.take n)
          ofBits? a.bits = some a ∧ a.truncate = a ∧ a.remaining = ∅ ∧ a.compl.compl = a ∧
            ¬ "0x".toList <:+: a.text.toList) := by
  refine ⟨?_, ?_, ?_⟩
  · intro start steps n
    exact unknown_final_subset start (steps.take n)
  · intro start steps s hs
    rw [final, Run.final_append]
    exact unknown_after_eq_empty hs _
  · intro start steps hstart hs n a
    have hknown : a ⊆ known v := by
      refine final_subset_known hstart fun b hb => hs b ?_
      obtain ⟨s, hmem, hb⟩ := List.mem_flatMap.mp hb
      exact List.mem_flatMap.mpr ⟨s, List.mem_of_mem_take hmem, hb⟩
    refine ⟨ofBits?_bits hknown, truncate_eq_self.mpr hknown, ?_, ?_, ?_⟩
    · rw [remaining_eq_unknown, unknown_eq_empty.mpr hknown]
    · rw [compl_compl, truncate_eq_self.mpr hknown]
    · intro hnumeral
      exact zero_not_mem_text hknown (hnumeral.subset (by decide))

/-- The masks of `inter` and `sdiff` have bits without a name, and are no sources. -/
theorem unknown_bits_have_sources_masks :
    let start : ModifierFlags := ⟨0x101⟩
    let steps : List (Step .modifier) := [.compl, .inter ⟨0xffffff00⟩, .load (.str "OUT|0x4"),
      .insertName "IN", .load (.str "STATIC|0x+"), .sdiff ⟨0xfff00004⟩, .extend [⟨0x10000⟩, ⟨1⟩]]
    start ⊆ known .modifier ∧ (∀ b ∈ steps.flatMap Step.sources, b ⊆ known .modifier) ∧
    Step.compl ∈ ([.compl, .truncate, .clear, .all] : List (Step .modifier)) ∧
    (start.final (steps ++ [.compl])).unknown = ∅ ∧
    ofBits? (start.final (steps.take 7)).bits = some (start.final (steps.take 7)) ∧
    (start.final (steps.take 7)).remaining = ∅ ∧
    ¬ "0x".toList <:+: (start.final (steps.take 7)).text.toList := by
  intro start steps
  have hstart : start ⊆ known .modifier := contains_iff.mp (by decide)
  have hsources : ∀ b ∈ steps.flatMap Step.sources, b ⊆ known .modifier := by
    have hall : (steps.flatMap Step.sources).all fun b => (known .modifier).contains b := by decide
    intro b hb
    exact contains_iff.mp (List.all_eq_true.mp hall b hb)
  have hcompl : Step.compl ∈ ([.compl, .truncate, .clear, .all] : List (Step .modifier)) := by simp
  obtain ⟨_, hclean, hknown⟩ := unknown_bits_have_sources .modifier
  obtain ⟨hbits, _, hremaining, _, htext⟩ := hknown start steps hstart hsources 7
  exact ⟨hstart, hsources, hcompl, hclean start steps .compl hcompl, hbits, hremaining, htext⟩

end Flags
end CheckerTags

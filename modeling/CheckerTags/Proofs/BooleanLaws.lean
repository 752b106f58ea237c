import CheckerTags.Proofs.KnownBits

/-!
# CheckerTags.Proofs.BooleanLaws

Sets of flags as a Boolean algebra. The complement of a set has named bits only, and every other
operation keeps what it is given, so the laws of a Boolean algebra hold as they stand where no
complement is taken, hold on named bits where one is, and in between have conditions on the bits
without a name. Each condition here is exact.

* `Flags.compl_union`, `Flags.compl_inter`: complements of unions and intersections.
* `Flags.sdiff_eq_inter_compl`, `Flags.subset_compl`: where the complement stands for `\` and `∩`.
* `Flags.truncate_union_unknown`, `Flags.truncate_inter_unknown`: the two parts of a set.
-/

namespace CheckerTags
namespace Flags

variable {v : Vocab}

/-! ## Complements -/

theorem compl_union (a b : Flags v) : (a ∪ b).compl = a.compl ∩ b.compl := by
  apply ext_mem
  intro i
  simp only [mem_compl, mem_union, mem_inter]
  tauto

theorem compl_inter (a b : Flags v) : (a ∩ b).compl = a.compl ∪ b.compl := by
  apply ext_mem
  intro i
  simp only [mem_compl, mem_union, mem_inter]
  tauto

/-- The complement lacks the unknown bits of `a`, whether they are in `b` or not. -/
theorem sdiff_eq_inter_compl {a b : Flags v} : a \ b = a ∩ b.compl ↔ a \ b ⊆ known v := by
  constructor
  · intro h i hi
    rw [h] at hi
    exact (mem_compl.mp (mem_inter.mp hi).2).1
  · intro h
    apply ext_mem
    intro i
    rw [mem_inter, mem_compl]
    constructor
    · intro hi
      obtain ⟨ha, hb⟩ := mem_sdiff.mp hi
      exact ⟨ha, h i hi, hb⟩
    · rintro ⟨ha, _, hb⟩
      exact mem_sdiff.mpr ⟨ha, hb⟩

theorem subset_compl {a b : Flags v} : a ⊆ b.compl ↔ a ⊆ known v ∧ a ∩ b = ∅ := by
  rw [inter_eq_empty]
  simp only [subset_def, mem_compl, forall_and]

theorem compl_eq_empty {a : Flags v} : a.compl = ∅ ↔ known v ⊆ a :=
  sdiff_eq_empty

/-! ## Symmetric differences -/

theorem symmDiff_eq_union_sdiff (a b : Flags v) : a.symmDiff b = (a \ b) ∪ (b \ a) := by
  apply ext_mem
  intro i
  simp only [mem_symmDiff, mem_union, mem_sdiff]
  tauto

theorem symmDiff_eq_sdiff_inter (a b : Flags v) : a.symmDiff b = (a ∪ b) \ (a ∩ b) := by
  apply ext_mem
  intro i
  simp only [mem_symmDiff, mem_union, mem_sdiff, mem_inter]
  tauto

/-! ## Named and unknown bits -/

theorem ofBits?_bits_eq_some {a : Flags v} : ofBits? a.bits = some a ↔ a.truncate = a := by
  by_cases h : a.truncate = a <;> simp [ofBits?, h]

theorem ofBits?_bits_eq_none {a : Flags v} :
    (ofBits? a.bits : Option (Flags v)) = none ↔ a.truncate ≠ a := by
  by_cases h : a.truncate = a <;> simp [ofBits?, h]

theorem truncate_union_unknown (a : Flags v) : a.truncate ∪ a.unknown = a := by
  apply ext_mem
  intro i
  simp only [mem_union, mem_truncate, mem_unknown]
  tauto

theorem truncate_inter_unknown (a : Flags v) : a.truncate ∩ a.unknown = ∅ := by
  rw [inter_eq_empty]
  intro i htruncate hunknown
  exact (mem_unknown.mp hunknown).2 (mem_truncate.mp htruncate).2

/-- The laws of a Boolean algebra that has the named bits for its top, each with the exact condition
on the bits without a name. -/
theorem boolean_up_to_unknown (v : Vocab) (a b : Flags v) :
    a.compl.compl = a.truncate ∧
    ((a ∪ b).compl = a.compl ∩ b.compl ∧ (a ∩ b).compl = a.compl ∪ b.compl) ∧
    (a \ b = a ∩ b.compl ↔ a \ b ⊆ known v) ∧
    (a.symmDiff b = (a \ b) ∪ (b \ a) ∧ a.symmDiff b = (a ∪ b) \ (a ∩ b)) ∧
    ((a.contains b = true ↔ a ∪ b = a) ∧ (a.contains b = true ↔ (b \ a).isEmpty = true)) ∧
    (b.compl.contains a = true ↔ a ⊆ known v ∧ a.intersects b = false) ∧
    ((a.isAll = true ↔ a.contains (known v) = true) ∧
      (a.isAll = true ↔ a.compl.isEmpty = true)) ∧
    ((ofBits? a.bits = some a ↔ a.truncate = a) ∧
      ((ofBits? a.bits : Option (Flags v)) = none ↔ a.truncate ≠ a)) ∧
    (a.truncate ∪ a.unknown = a ∧ a.truncate ∩ a.unknown = ∅) := by
  refine ⟨compl_compl a, ⟨compl_union a b, compl_inter a b⟩, sdiff_eq_inter_compl,
    ⟨symmDiff_eq_union_sdiff a b, symmDiff_eq_sdiff_inter a b⟩, ⟨?_, ?_⟩, ?_, ⟨Iff.rfl, ?_⟩,
    ⟨ofBits?_bits_eq_some, ofBits?_bits_eq_none⟩,
    ⟨truncate_union_unknown a, truncate_inter_unknown a⟩⟩
  · rw [contains_iff, union_eq_left]
  · rw [contains_iff, isEmpty_iff, sdiff_eq_empty]
  · rw [contains_iff, subset_compl, intersects_eq_false]
  · rw [isAll_iff, isEmpty_iff, compl_eq_empty]

/-- The highest bit has no name, and only what goes through a complement loses it. -/
example :
    let a : TypeFlags := ⟨0x80000001⟩
    a \ ∅ = a ∧ a ∩ compl ∅ = TypeFlags.any ∧ a.compl.compl = TypeFlags.any := by
  decide

end Flags
end CheckerTags

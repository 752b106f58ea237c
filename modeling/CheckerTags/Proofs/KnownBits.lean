import CheckerTags.Flags.Text
import CheckerTags.Proofs.NameWalk
import CheckerTags.Proofs.Spelling

/-!
# CheckerTags.Proofs.KnownBits

Bits with and without a name. In every vocabulary the bits with a name are the low ones, without a
gap, and each has a constant of its own (`Flags.exists_single`). So a walk accounts for all of them,
and what it leaves over are the bits without a name.

* `Flags.mem_known`: the bits with a name.
* `Flags.remaining_eq_unknown`: what a walk leaves over.
* `Flags.zero_not_mem_text`: a set of named bits is written without a numeral.
-/

namespace CheckerTags

theorem Vocab.length_singles_le (v : Vocab) : v.singles.length ≤ 32 := by
  cases v <;> decide

namespace Flags

variable {v : Vocab}

/-- The bits of a set that have no name. -/
def unknown (a : Flags v) : Flags v := a \ known v

@[simp] theorem mem_unknown {i : Nat} {a : Flags v} : i ∈ a.unknown ↔ i ∈ a ∧ ¬ i ∈ known v :=
  mem_sdiff

theorem unknown_eq_empty {a : Flags v} : a.unknown = ∅ ↔ a ⊆ known v :=
  sdiff_eq_empty

/-! ## The bits with a name -/

theorem exists_single {i : Nat} (hi : i < v.singles.length) :
    ∃ c ∈ v.singles, c.flags = (bit i : Flags v) := by
  have hmem : (bit i : Flags v) ∈ v.singles.map Constant.flags := by
    rw [v.singles_flags]
    exact List.mem_map_of_mem (List.mem_range.mpr hi)
  exact List.mem_map.mp hmem

theorem mem_unionAll_singles {i : Nat} :
    i ∈ unionAll (v.singles.map Constant.flags) ↔ i < v.singles.length := by
  have hle := v.length_singles_le
  rw [v.singles_flags, mem_unionAll]
  constructor
  · rintro ⟨x, hx, hi⟩
    obtain ⟨j, hj, rfl⟩ := List.mem_map.mp hx
    rw [(mem_bit.mp hi).1]
    exact List.mem_range.mp hj
  · intro hi
    exact ⟨bit i, List.mem_map_of_mem (List.mem_range.mpr hi), mem_bit.mpr ⟨rfl, by omega⟩⟩

theorem composites_subset (v : Vocab) :
    ∀ c ∈ v.composites, c.flags ⊆ unionAll (v.singles.map Constant.flags) := by
  have hall : v.composites.all fun c =>
      (unionAll (v.singles.map Constant.flags)).contains c.flags := by
    cases v <;> decide
  intro c hc
  exact contains_iff.mp (List.all_eq_true.mp hall c hc)

theorem mem_known {i : Nat} : i ∈ known v ↔ i < v.singles.length := by
  rw [← mem_unionAll_singles, known, Vocab.constants, List.map_append]
  simp only [mem_unionAll, List.mem_append, List.mem_map]
  constructor
  · rintro ⟨x, ⟨c, hc, rfl⟩ | ⟨c, hc, rfl⟩, hi⟩
    · exact ⟨c.flags, ⟨c, hc, rfl⟩, hi⟩
    · have := composites_subset v c hc i hi
      simpa using this
  · rintro ⟨x, hx, hi⟩
    exact ⟨x, .inl hx, hi⟩

theorem flags_subset_known {c : Constant v} (hc : c ∈ v.constants) : c.flags ⊆ known v := by
  intro i hi
  exact mem_unionAll.mpr ⟨c.flags, List.mem_map_of_mem hc, hi⟩

/-- A bit with a name has a constant that no set with this bit lacks. -/
theorem exists_single_subset {a : Flags v} {i : Nat} (hi : i ∈ a) (hname : i < v.singles.length) :
    ∃ c ∈ v.singles, c.flags ⊆ a ∧ i ∈ c.flags := by
  obtain ⟨c, hc, hflags⟩ := exists_single hname
  have hi32 := lt_of_mem hi
  refine ⟨c, hc, ?_, ?_⟩
  · rw [hflags, bit_subset hi32]
    exact hi
  · rw [hflags]
    exact mem_bit.mpr ⟨rfl, hi32⟩

theorem remaining_eq_unknown (a : Flags v) : a.remaining = a.unknown := by
  apply ext_mem
  intro i
  rw [remaining, walk, Walk.mem_left, mem_unknown]
  refine and_congr_right fun hi => ?_
  constructor
  · intro hnone hknown
    -- the constant of this bit alone lies in the set, so it cannot have been passed over
    obtain ⟨c, hc, hsub, hic⟩ := exists_single_subset hi (mem_known.mp hknown)
    exact hnone c (List.mem_append_left _ hc) hsub hic
  · intro hunknown c hc _ hic
    exact hunknown (flags_subset_known hc i hic)

/-! ## Sets of named bits -/

theorem truncate_eq_self {a : Flags v} : a.truncate = a ↔ a ⊆ known v :=
  inter_eq_left

theorem ofBits?_bits {a : Flags v} (h : a ⊆ known v) : ofBits? a.bits = some a :=
  if_pos (truncate_eq_self.mpr h)

theorem compl_compl (a : Flags v) : a.compl.compl = a.truncate := by
  apply ext_mem
  intro i
  simp only [mem_compl, mem_truncate]
  tauto

theorem mem_of_mem_intercalate {α : Type} {x : α} {sep : List α} {pieces : List (List α)}
    (h : x ∈ sep.intercalate pieces) : x ∈ sep ∨ ∃ piece ∈ pieces, x ∈ piece := by
  induction pieces with
  | nil => simp at h
  | cons piece pieces ih =>
    cases pieces with
    | nil => exact .inr ⟨piece, by simp, by simpa using h⟩
    | cons next pieces =>
      rw [List.intercalate_cons_cons, List.mem_append, List.mem_append] at h
      rcases h with (h | h) | h
      · exact .inr ⟨piece, by simp, h⟩
      · exact .inl h
      · rcases ih h with h | ⟨p, hp, hx⟩
        · exact .inl h
        · exact .inr ⟨p, List.mem_cons_of_mem _ hp, hx⟩

theorem zero_not_mem_text {a : Flags v} (h : a ⊆ known v) : '0' ∉ a.text.toList := by
  have hwords : a.words = a.names := by
    have hempty : a.remaining.isEmpty = true := by
      rw [isEmpty_iff, remaining_eq_unknown, unknown_eq_empty.mpr h]
    rw [words, if_pos hempty, List.append_nil]
  rw [text, hwords, String.toList_intercalate]
  intro hzero
  rcases mem_of_mem_intercalate hzero with hsep | ⟨piece, hpiece, hmem⟩
  · revert hsep
    decide
  · obtain ⟨name, hname, rfl⟩ := List.mem_map.mp hpiece
    obtain ⟨c, hc, rfl⟩ := List.mem_map.mp hname
    have hchar := (v.spelled (mem_constants_of_mem_named hc)).2 '0' hmem
    cases hchar

end Flags
end CheckerTags

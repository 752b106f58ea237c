import CheckerTags.Proofs.KindOrder
import CheckerTags.Proofs.Pieces

/-!
# CheckerTags.Proofs.KindSets

Flags as sets of kinds. The flags of a list have the position of each kind that occurs in it and no
other, and no two kinds share one (`Modifiers.position_mem_flags`), so such a set of flags and the set
of kinds that it was made from determine each other. The other bits that a set may have take no part
in this.

* `Modifiers.flags_subset_iff`: the bits of a list inside a set of flags.
* `Modifiers.flags_eq_iff`: lists with the same flags.
* `ModifierFlags.map_flag_kinds_perm`: the kinds of a set and its pieces.
-/

namespace CheckerTags

/-! ## Lists -/

namespace Modifiers

section

variable {μ ν : Type} [HasKind μ] [HasKind ν] {ms : Modifiers μ} {ns : Modifiers ν}

theorem flags_subset_iff {fs : ModifierFlags} :
    ms.flags ⊆ fs ↔ ∀ k ∈ ms.kinds, k.position ∈ fs := by
  constructor
  · intro h k hk
    exact h _ (position_mem_flags.mpr hk)
  · intro h i hi
    obtain ⟨k, hk, rfl⟩ := mem_flags_iff.mp hi
    exact h k hk

theorem flags_eq_iff : ms.flags = ns.flags ↔ ∀ k, k ∈ ms.kinds ↔ k ∈ ns.kinds := by
  constructor
  · intro h k
    rw [← position_mem_flags, h, position_mem_flags]
  · intro h
    apply Flags.ext_mem
    intro i
    simp only [mem_flags_iff, h]

theorem flags_eq_union {ξ : Type} [HasKind ξ] {rs : Modifiers ξ}
    (h : rs.kinds = ms.kinds ++ ns.kinds) : rs.flags = ms.flags ∪ ns.flags := by
  apply Flags.ext_mem
  intro i
  simp only [Flags.mem_union, mem_flags_iff, h, List.mem_append, or_and_right, exists_or]

end

/-- A set of flags made from a list forgets order, repetition and whether there was a list, and
nothing else: lists have the same flags if and only if the same kinds occur in them. -/
theorem flags_determine_kinds {μ ν : Type} [HasKind μ] [HasKind ν] (ms : Modifiers μ)
    (ns : Modifiers ν) :
    (ms.flags = ns.flags ↔ ∀ k, k ∈ ms.kinds ↔ k ∈ ns.kinds) ∧
    (∀ ls : Modifiers μ, Modifiers.flags (some (ms.items ++ ls.items)) = ms.flags ∪ ls.flags) ∧
    (∀ {ξ : Type} [HasKind ξ] (rs : Modifiers ξ), rs.kinds = ms.kinds ++ ns.kinds →
      rs.flags = ms.flags ∪ ns.flags) ∧
    (ns.flags.contains ms.flags = true ↔ ∀ k ∈ ms.kinds, k ∈ ns.kinds) := by
  refine ⟨flags_eq_iff, ?_, ?_, ?_⟩
  · intro ls
    exact flags_eq_union List.map_append
  · intro ξ _ rs h
    exact flags_eq_union h
  · rw [Flags.contains_iff, flags_subset_iff]
    simp only [position_mem_flags]

/-- Tokens, then handles on kinds, against one list of bare kinds. -/
theorem flags_determine_kinds_tokens :
    let ms : Modifiers Token := some [⟨.readonly, 0⟩, ⟨.public, 9⟩, ⟨.readonly, 16⟩]
    let ns : Modifiers (Handle Kind) := some [⟨.static⟩, ⟨.public⟩]
    let rs : Modifiers Kind := some [.readonly, .public, .readonly, .static, .public]
    rs.kinds = ms.kinds ++ ns.kinds ∧ rs.flags = ms.flags ∪ ns.flags := by
  intro ms ns rs
  have hkinds : rs.kinds = ms.kinds ++ ns.kinds := by rfl
  obtain ⟨_, _, hunion, _⟩ := flags_determine_kinds ms ns
  exact ⟨hkinds, hunion rs hkinds⟩

end Modifiers

/-! ## Sets of flags -/

namespace ModifierFlags

theorem ofKinds_subset_iff {ks : List Kind} {fs : ModifierFlags} :
    ofKinds ks ⊆ fs ↔ ∀ k ∈ ks, k ∈ fs.kinds := by
  rw [ofKinds, Modifiers.flags_subset_iff, Modifiers.kinds_some]
  simp only [mem_kinds_iff_position]

theorem ofKinds_kinds_eq_self {fs : ModifierFlags} :
    ofKinds fs.kinds = fs ↔ fs \ spelled = ∅ := by
  rw [ofKinds_kinds, Flags.inter_eq_left, Flags.sdiff_eq_empty]

theorem spelled_subset_known : spelled ⊆ Flags.known .modifier := by
  intro i hi
  obtain ⟨k, rfl⟩ := mem_spelled.mp hi
  have hlt := k.position_lt_decorator
  have hlength : Vocab.modifier.singles.length = 17 := rfl
  exact Flags.mem_known.mpr (by omega)

/-- Kinds come in the order of keywords and pieces in that of bits. -/
theorem map_flag_kinds_perm (fs : ModifierFlags) :
    (fs.kinds.map Kind.flag).Perm (fs ∩ spelled).pieces := by
  have hnodup : fs.kinds.Nodup := by
    refine (pairwise_kinds fs).imp ?_
    rintro k _ hlt rfl
    exact Std.lt_irrefl hlt
  have hknown : fs ∩ spelled ⊆ Flags.known .modifier := by
    intro i hi
    exact spelled_subset_known i (Flags.mem_inter.mp hi).2
  -- both lists have each flag once, so it is enough to compare their members
  rw [List.perm_ext_iff_of_nodup (hnodup.map Kind.flag_injective) (Flags.nodup_pieces _)]
  intro x
  rw [Flags.mem_pieces_of_subset_known hknown]
  simp only [List.mem_map, mem_kinds_iff_position, Flags.mem_inter, mem_spelled]
  constructor
  · rintro ⟨k, hk, rfl⟩
    exact ⟨k.position, ⟨hk, k, rfl⟩, k.flag_eq_bit⟩
  · rintro ⟨_, ⟨hk, k, rfl⟩, rfl⟩
    exact ⟨k, hk, k.flag_eq_bit⟩

/-- Making flags from kinds and listing the kinds of flags are adjoint. Going to kinds and back
keeps the bits that keywords set, whose pieces are the flags of the kinds, and drops the others. -/
theorem ofKinds_adjoint_kinds (fs : ModifierFlags) :
    (∀ ks : List Kind, fs.contains (ofKinds ks) = true ↔ ∀ k ∈ ks, k ∈ fs.kinds) ∧
    (fs.kinds.Pairwise fun j k => Kind.all.idxOf j < Kind.all.idxOf k) ∧
    ofKinds fs.kinds = fs ∩ spelled ∧
    (ofKinds fs.kinds = fs ↔ fs \ spelled = ∅) ∧
    (fs.kinds.map Kind.flag).Perm (fs ∩ spelled).pieces := by
  refine ⟨?_, ?_, ofKinds_kinds fs, ofKinds_kinds_eq_self, map_flag_kinds_perm fs⟩
  · intro ks
    rw [Flags.contains_iff, ofKinds_subset_iff]
  · simp only [Kind.idxOf_all]
    exact pairwise_kinds fs

/-- Of the five bits three have no keyword; `declare` comes before `public`, and its bit after. -/
example :
    let fs : ModifierFlags := ⟨0x80018081⟩
    fs.kinds = [.declare, .public] ∧ (fs ∩ spelled).pieces = [«public», ambient] := by
  decide

end ModifierFlags
end CheckerTags

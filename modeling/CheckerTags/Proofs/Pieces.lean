import CheckerTags.Flags.Step
import CheckerTags.Proofs.KnownBits

/-!
# CheckerTags.Proofs.Pieces

The pieces of a set. The single bits come first in the table of a vocabulary, so the walk takes each
of them that is in the set, and leaves no bit over that a composite could still be yielded for. The
pieces therefore do not overlap, and they make up the set whatever the order they are put together
in and however often.

* `Walk.named_eq_filter`: a walk through constants that do not overlap.
* `Walk.named_eq_nil`: a walk with nothing left for its constants.
* `Flags.named_eq_filter_singles`: what the walk of a set yields.
* `Flags.pairwise_parts`: the yielded constants and the rest do not overlap.
-/

namespace CheckerTags

/-! ## Walks -/

namespace Walk

variable {v : Vocab} {source : Flags v}

theorem through_append (xs ys : List (Constant v)) (left : Flags v) :
    through source (xs ++ ys) left =
      ⟨(through source xs left).named ++ (through source ys (through source xs left).left).named,
        (through source ys (through source xs left).left).left⟩ := by
  induction xs generalizing left with
  | nil => rfl
  | cons c xs ih =>
    simp only [List.cons_append, through]
    split
    · rw [ih]
      rfl
    · exact ih left

theorem named_eq_nil {table : List (Constant v)} {left : Flags v}
    (h : ∀ c ∈ table, left ∩ c.flags = ∅) : (through source table left).named = [] := by
  induction table with
  | nil => rfl
  | cons c table ih =>
    obtain ⟨hc, htable⟩ := List.forall_mem_cons.mp h
    have hpass : left.intersects c.flags = false := Flags.intersects_eq_false.mpr hc
    rw [through, hpass, Bool.and_false, if_neg Bool.false_ne_true]
    exact ih htable

theorem named_eq_filter {table : List (Constant v)} {left : Flags v}
    (apart : table.Pairwise fun c d => c.flags ∩ d.flags = ∅)
    (inhabited : ∀ c ∈ table, c.flags ≠ ∅)
    (hleft : ∀ c ∈ table, c.flags ⊆ source → c.flags ⊆ left) :
    (through source table left).named = table.filter fun c => source.contains c.flags := by
  induction table generalizing left with
  | nil => rfl
  | cons c table ih =>
    obtain ⟨hc, htable⟩ := List.pairwise_cons.mp apart
    obtain ⟨hcne, hne⟩ := List.forall_mem_cons.mp inhabited
    obtain ⟨hcleft, hrest⟩ := List.forall_mem_cons.mp hleft
    unfold through
    cases hsource : source.contains c.flags with
    | false =>
      rw [Bool.false_and, if_neg Bool.false_ne_true, List.filter_cons,
        if_neg (by simp [hsource])]
      exact ih htable hne hrest
    | true =>
      have hsub : c.flags ⊆ left := hcleft (Flags.contains_iff.mp hsource)
      have hmeets : left.intersects c.flags = true := by
        rw [Ne, Flags.eq_empty_iff, Classical.not_forall_not] at hcne
        obtain ⟨i, hi⟩ := hcne
        exact Flags.intersects_iff.mpr ⟨i, hsub i hi, hi⟩
      rw [hmeets, Bool.true_and, if_pos rfl]
      -- a constant further on has no bit in common with `c`, so all it needs is still left
      have hleft' : ∀ d ∈ table, d.flags ⊆ source → d.flags ⊆ left \ c.flags := by
        intro d hd hdsource i hi
        have hic : ¬ i ∈ c.flags := fun hic => Flags.inter_eq_empty.mp (hc d hd) i hic hi
        exact Flags.mem_sdiff.mpr ⟨hrest d hd hdsource i hi, hic⟩
      rw [List.filter_cons, if_pos hsource, ← ih htable hne hleft']

end Walk

namespace Flags

variable {v : Vocab}

/-! ## Single bits -/

theorem exists_bit {c : Constant v} (hc : c ∈ v.singles) : ∃ i < 32, c.flags = bit i := by
  have hmem : c.flags ∈ v.singles.map Constant.flags := List.mem_map_of_mem hc
  rw [v.singles_flags] at hmem
  obtain ⟨i, hi, hflags⟩ := List.mem_map.mp hmem
  have hle := v.length_singles_le
  exact ⟨i, by have := List.mem_range.mp hi; omega, hflags.symm⟩

theorem flags_ne_empty {c : Constant v} (hc : c ∈ v.singles) : c.flags ≠ ∅ := by
  obtain ⟨i, hi, hflags⟩ := exists_bit hc
  rw [hflags]
  exact bit_ne_empty hi

theorem pairwise_singles (v : Vocab) :
    v.singles.Pairwise fun c d => c.flags ∩ d.flags = ∅ := by
  have hflags : (v.singles.map Constant.flags).Pairwise fun x y => x ∩ y = ∅ := by
    rw [v.singles_flags, List.pairwise_map]
    exact List.pairwise_lt_range.imp fun hij => bit_inter_bit (Nat.ne_of_lt hij)
  exact List.pairwise_map.mp hflags

theorem composites_ne_bit (v : Vocab) : ∀ c ∈ v.composites, ∀ i < 32, c.flags ≠ bit i := by
  cases v <;> decide

/-! ## What a walk yields -/

theorem named_eq_filter_singles (a : Flags v) :
    a.named = v.singles.filter fun c => a.contains c.flags := by
  have hsingles : (Walk.through a v.singles a).named =
      v.singles.filter fun c => a.contains c.flags :=
    Walk.named_eq_filter (pairwise_singles v) (fun _ => flags_ne_empty) fun _ _ hsub => hsub
  have hcomposites : ∀ c ∈ v.composites,
      (Walk.through a v.singles a).left ∩ c.flags = ∅ := by
    intro c hc
    rw [inter_eq_empty]
    intro i hi hic
    obtain ⟨hia, hnone⟩ := (Walk.mem_left v.singles a).mp hi
    have hname : i < v.singles.length := mem_unionAll_singles.mp (composites_subset v c hc i hic)
    obtain ⟨d, hd, hsub, hid⟩ := exists_single_subset hia hname
    exact hnone d hd hsub hid
  rw [named, walk, Vocab.constants, Walk.through_append, Walk.named_eq_nil hcomposites, hsingles,
    List.append_nil]

theorem mem_named {a : Flags v} {c : Constant v} :
    c ∈ a.named ↔ c ∈ v.constants ∧ ∃ i ∈ a, c.flags = bit i := by
  rw [named_eq_filter_singles, List.mem_filter, contains_iff]
  constructor
  · rintro ⟨hc, hsub⟩
    obtain ⟨i, hi, hflags⟩ := exists_bit hc
    rw [hflags, bit_subset hi] at hsub
    exact ⟨List.mem_append_left _ hc, i, hsub, hflags⟩
  · rintro ⟨hc, i, hia, hflags⟩
    have hi := lt_of_mem hia
    rcases List.mem_append.mp hc with hc | hc
    · rw [hflags, bit_subset hi]
      exact ⟨hc, hia⟩
    · exact absurd hflags (composites_ne_bit v c hc i hi)

theorem named_eq_nil {a : Flags v} :
    a.named = [] ↔ ∀ c ∈ v.constants, a.intersects c.flags = false := by
  constructor
  · intro hnil c hc
    rw [intersects_eq_false, inter_eq_empty]
    intro i hia hic
    obtain ⟨d, hd, hsub, _⟩ := exists_single_subset hia (mem_known.mp (flags_subset_known hc i hic))
    obtain ⟨j, hj, hflags⟩ := exists_bit hd
    rw [hflags, bit_subset hj] at hsub
    have hmem : d ∈ a.named := mem_named.mpr ⟨List.mem_append_left _ hd, j, hsub, hflags⟩
    rw [hnil] at hmem
    cases hmem
  · intro hnone
    rw [List.eq_nil_iff_forall_not_mem]
    intro c hc
    obtain ⟨hmem, i, hi, hflags⟩ := mem_named.mp hc
    have hmeets : a.intersects c.flags = true :=
      intersects_iff.mpr ⟨i, hi, hflags ▸ mem_bit.mpr ⟨rfl, lt_of_mem hi⟩⟩
    rw [hnone c hmem] at hmeets
    cases hmeets

/-- Not even when all its bits are in the set. -/
theorem composite_not_mem_names (a : Flags v) {c : Constant v} (hc : c ∈ v.composites) :
    c.name ∉ a.names := by
  intro hname
  obtain ⟨d, hd, hdname⟩ := List.mem_map.mp hname
  obtain ⟨hdmem, i, hi, hflags⟩ := mem_named.mp hd
  obtain rfl : d = c :=
    List.inj_on_of_nodup_map v.names_nodup hdmem (List.mem_append_right _ hc) hdname
  exact composites_ne_bit v d hc i (lt_of_mem hi) hflags

theorem named_sublist (a : Flags v) : a.named.Sublist v.constants := by
  rw [named_eq_filter_singles]
  exact List.filter_sublist.trans (List.sublist_append_left v.singles v.composites)

theorem nodup_names (a : Flags v) : a.names.Nodup :=
  v.names_nodup.sublist ((named_sublist a).map Constant.name)

/-! ## Pieces -/

theorem pairwise_parts (a : Flags v) :
    (a.named.map Constant.flags ++ [a.remaining]).Pairwise fun x y => x ∩ y = ∅ := by
  rw [List.pairwise_append]
  refine ⟨?_, List.pairwise_singleton _ _, ?_⟩
  · rw [List.pairwise_map, named_eq_filter_singles]
    exact (pairwise_singles v).filter _
  · intro x hx y hy
    obtain ⟨c, hc, rfl⟩ := List.mem_map.mp hx
    rw [List.mem_singleton.mp hy, remaining_eq_unknown, inter_eq_empty]
    intro i hi hunknown
    exact (mem_unknown.mp hunknown).2 (flags_subset_known (mem_constants_of_mem_named hc) i hi)

theorem unionAll_parts (a : Flags v) :
    unionAll (a.named.map Constant.flags ++ [a.remaining]) = a := by
  calc unionAll (a.named.map Constant.flags ++ [a.remaining])
    _ = unionAll a.pieces := by
      apply ext_mem
      intro i
      by_cases h : a.remaining = ∅ <;> simp [pieces, h]
    _ = a := unionAll_pieces a

theorem ne_empty_of_mem_pieces {a x : Flags v} (hx : x ∈ a.pieces) : x ≠ ∅ := by
  rcases mem_pieces.mp hx with ⟨c, hc, rfl⟩ | ⟨rfl, hne⟩
  · obtain ⟨_, i, hi, hflags⟩ := mem_named.mp hc
    rw [hflags]
    exact bit_ne_empty (lt_of_mem hi)
  · exact hne

theorem nodup_pieces (a : Flags v) : a.pieces.Nodup := by
  have hsub : a.pieces.Sublist (a.named.map Constant.flags ++ [a.remaining]) := by
    unfold pieces
    split
    · exact List.Sublist.append_left (List.nil_sublist _) _
    · exact List.Sublist.refl _
  refine ((pairwise_parts a).sublist hsub).imp_of_mem ?_
  -- pieces that are equal overlap, since none is empty
  rintro x y hx - hxy rfl
  apply ne_empty_of_mem_pieces hx
  rw [eq_empty_iff]
  intro i hi
  exact inter_eq_empty.mp hxy i hi hi

/-- A set of named bits is cut into its bits. -/
theorem mem_pieces_of_subset_known {a x : Flags v} (h : a ⊆ known v) :
    x ∈ a.pieces ↔ ∃ i ∈ a, x = bit i := by
  have hempty : a.remaining = ∅ := by
    rw [remaining_eq_unknown, unknown_eq_empty]
    exact h
  rw [mem_pieces, hempty]
  simp only [mem_named, ne_eq, not_true_eq_false, and_false, or_false]
  constructor
  · rintro ⟨c, ⟨_, i, hi, hflags⟩, rfl⟩
    exact ⟨i, hi, hflags⟩
  · rintro ⟨i, hi, rfl⟩
    obtain ⟨c, hc, hflags⟩ := exists_single (mem_known.mp (h i hi))
    exact ⟨c, ⟨List.mem_append_left _ hc, i, hi, hflags⟩, hflags⟩

/-- The walk of a set cuts it into the named bits, each once and in the order of the table, and the
rest. The pieces give the set back in any order and with any repetitions. -/
theorem walk_partitions (v : Vocab) (a : Flags v) :
    a.named.Sublist v.constants ∧
    (∀ c, c ∈ a.named ↔ c ∈ v.constants ∧ ∃ i ∈ a, c.flags = bit i) ∧
    (a.names = a.named.map Constant.name ∧ a.names.Nodup) ∧
    (∀ c ∈ v.composites, (∀ i < 32, c.flags ≠ bit i) ∧ c.name ∉ a.names) ∧
    ((a.named.map Constant.flags ++ [a.remaining]).Pairwise fun x y => x ∩ y = ∅) ∧
    a.remaining = a \ known v ∧
    unionAll (a.named.map Constant.flags ++ [a.remaining]) = a ∧
    a.pieces = a.named.map Constant.flags ++ (if a.remaining = ∅ then [] else [a.remaining]) ∧
    (∀ items : List (Flags v), (∀ x, x ∈ items ↔ x ∈ a.pieces) →
      (∀ b : Flags v, step b (.collect items) = .ok (.done, a)) ∧
      step (∅ : Flags v) (.extend items) = .ok (.done, a)) := by
  refine ⟨named_sublist a, fun c => mem_named, ⟨rfl, nodup_names a⟩, ?_, pairwise_parts a,
    remaining_eq_unknown a, unionAll_parts a, ?_, ?_⟩
  · intro c hc
    exact ⟨composites_ne_bit v c hc, composite_not_mem_names a hc⟩
  · simp only [pieces, isEmpty_iff]
  · intro items hitems
    have hunion : unionAll items = a := by rw [unionAll_congr hitems, unionAll_pieces]
    refine ⟨fun b => ?_, ?_⟩
    · rw [step, hunion]
    · rw [step, ← unionAll, hunion]

/-- All bits of `ACCESSIBILITY_MODIFIER` are there, and it is not yielded. -/
theorem walk_partitions_accessibility :
    let a : ModifierFlags := ⟨0x80000007⟩
    let items : List ModifierFlags :=
      [⟨0x80000000⟩, ModifierFlags.protected, ModifierFlags.public, ModifierFlags.private,
        ModifierFlags.public]
    (∀ x, x ∈ items ↔ x ∈ a.pieces) ∧
    ModifierFlags.accessibilityModifier ⊆ a ∧
    a.names = ["PUBLIC", "PRIVATE", "PROTECTED"] ∧
    step (⟨0x10⟩ : ModifierFlags) (.collect items) = .ok (.done, a) ∧
    step (∅ : ModifierFlags) (.extend items) = .ok (.done, a) := by
  intro a items
  have hpieces : a.pieces = [ModifierFlags.public, ModifierFlags.private, ModifierFlags.protected,
      ⟨0x80000000⟩] := by
    decide
  have hitems : ∀ x, x ∈ items ↔ x ∈ a.pieces := by
    intro x
    simp only [items, hpieces, List.mem_cons, List.not_mem_nil, or_false]
    tauto
  obtain ⟨_, _, _, _, _, _, _, _, hback⟩ := walk_partitions .modifier a
  obtain ⟨hcollect, hextend⟩ := hback items hitems
  exact ⟨hitems, contains_iff.mp (by decide), by decide, hcollect _, hextend⟩

end Flags
end CheckerTags

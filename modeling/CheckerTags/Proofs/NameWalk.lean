import CheckerTags.Flags.Walk
import Mathlib.Data.List.Basic

/-!
# CheckerTags.Proofs.NameWalk

The walk through a table of constants loses no bit and makes none up: what is still to be covered
is covered by the constants that are yielded and the bits that are left (`Walk.covers`), and both
stay inside the set. Of the table nothing is assumed.

* `Walk.mem_left`: a bit is left when no constant inside the set has it.
* `Flags.unionAll_pieces`: the pieces of a set make up the set.
-/

namespace CheckerTags
namespace Walk

variable {v : Vocab} {source : Flags v}

theorem named_subset (table : List (Constant v)) (left : Flags v) :
    ∀ c ∈ (through source table left).named, c ∈ table ∧ c.flags ⊆ source := by
  induction table generalizing left with
  | nil => simp [through]
  | cons c table ih =>
    unfold through
    split
    · rename_i h
      have hc : c.flags ⊆ source := Flags.contains_iff.mp (Bool.and_eq_true_iff.mp h).1
      intro x hx
      rcases List.mem_cons.mp hx with rfl | hx
      · exact ⟨List.mem_cons_self, hc⟩
      · obtain ⟨hmem, hsub⟩ := ih _ x hx
        exact ⟨List.mem_cons_of_mem _ hmem, hsub⟩
    · intro x hx
      obtain ⟨hmem, hsub⟩ := ih left x hx
      exact ⟨List.mem_cons_of_mem _ hmem, hsub⟩

theorem mem_left {i : Nat} (table : List (Constant v)) (left : Flags v) :
    i ∈ (through source table left).left ↔
      i ∈ left ∧ ∀ c ∈ table, c.flags ⊆ source → ¬ i ∈ c.flags := by
  induction table generalizing left with
  | nil => simp [through]
  | cons c table ih =>
    rw [List.forall_mem_cons]
    unfold through
    split
    · rename_i h
      have hc : c.flags ⊆ source := Flags.contains_iff.mp (Bool.and_eq_true_iff.mp h).1
      simp only [ih, Flags.mem_sdiff, hc, forall_const, and_assoc]
    · rename_i h
      -- a constant inside the set is passed over only when none of its bits is left
      have hc : i ∈ left → c.flags ⊆ source → ¬ i ∈ c.flags := by
        intro hi hsub hic
        apply h
        rw [Flags.contains_iff.mpr hsub, Flags.intersects_iff.mpr ⟨i, hi, hic⟩]
        rfl
      rw [ih]
      constructor
      · rintro ⟨hi, hrest⟩
        exact ⟨hi, hc hi, hrest⟩
      · rintro ⟨hi, _, hrest⟩
        exact ⟨hi, hrest⟩

theorem left_subset (table : List (Constant v)) (left : Flags v) :
    (through source table left).left ⊆ left := by
  intro i hi
  exact ((mem_left table left).mp hi).1

theorem covers (table : List (Constant v)) {left : Flags v} {i : Nat} (hi : i ∈ left) :
    (∃ c ∈ (through source table left).named, i ∈ c.flags) ∨
      i ∈ (through source table left).left := by
  induction table generalizing left with
  | nil => exact .inr hi
  | cons c table ih =>
    unfold through
    split
    · -- the constant is yielded: it covers the bit itself, or leaves it to the rest of the table
      by_cases hc : i ∈ c.flags
      · exact .inl ⟨c, List.mem_cons_self, hc⟩
      · rcases ih (Flags.mem_sdiff.mpr ⟨hi, hc⟩) with ⟨x, hx, hxi⟩ | h
        · exact .inl ⟨x, List.mem_cons_of_mem _ hx, hxi⟩
        · exact .inr h
    · exact ih hi

end Walk

namespace Flags

variable {v : Vocab}

theorem mem_constants_of_mem_named {a : Flags v} {c : Constant v} (h : c ∈ a.named) :
    c ∈ v.constants :=
  (Walk.named_subset v.constants a c h).1

theorem mem_pieces {a x : Flags v} :
    x ∈ a.pieces ↔ (∃ c ∈ a.named, c.flags = x) ∨ (x = a.remaining ∧ a.remaining ≠ ∅) := by
  unfold pieces
  by_cases h : a.remaining = ∅
  · simp [h]
  · simp [h]

theorem unionAll_pieces (a : Flags v) : unionAll a.pieces = a := by
  apply ext_mem
  intro i
  rw [mem_unionAll]
  constructor
  · rintro ⟨x, hx, hi⟩
    rcases mem_pieces.mp hx with ⟨c, hc, rfl⟩ | ⟨rfl, _⟩
    · exact (Walk.named_subset v.constants a c hc).2 i hi
    · exact Walk.left_subset v.constants a i hi
  · intro hi
    have hcover : (∃ c ∈ a.named, i ∈ c.flags) ∨ i ∈ a.remaining := Walk.covers v.constants hi
    rcases hcover with ⟨c, hc, hci⟩ | h
    · exact ⟨c.flags, mem_pieces.mpr (.inl ⟨c, hc, rfl⟩), hci⟩
    · have hne : a.remaining ≠ ∅ := fun hempty => eq_empty_iff.mp hempty i h
      exact ⟨a.remaining, mem_pieces.mpr (.inr ⟨rfl, hne⟩), h⟩

end Flags
end CheckerTags

import CheckerTags.CheckedType.Guard
import CheckerTags.Declaration.Basic
import CheckerTags.Proofs.NameWalk
import Mathlib.Logic.ExistsUnique

/-!
# CheckerTags.Proofs.PieceQueries

Asking for several bits at once. A query can want any of its bits (`Flags.AnyBit`) or every one of
them (`Flags.EveryBit`). Either kind can be answered piece by piece, and a union of queries by the
answers to each of them. The two kinds differ on every query but those for one bit.

* `Flags.anyBit_isSet`, `Flags.everyBit_contains`: queries of a set of flags.
* `Flags.isSet_eq_contains_iff`: where both kinds have the same answer.
-/

namespace CheckerTags
namespace Flags

variable {v : Vocab}

theorem intersects_unionAll (a : Flags v) (qs : List (Flags v)) :
    a.intersects (unionAll qs) = qs.any a.intersects := by
  rw [Bool.eq_iff_iff]
  simp only [List.any_eq_true, intersects_iff, mem_unionAll]
  constructor
  · rintro ⟨i, hi, q, hq, hiq⟩
    exact ⟨q, hq, i, hi, hiq⟩
  · rintro ⟨q, hq, i, hi, hiq⟩
    exact ⟨i, hi, q, hq, hiq⟩

theorem unionAll_subset {qs : List (Flags v)} {a : Flags v} :
    unionAll qs ⊆ a ↔ ∀ q ∈ qs, q ⊆ a := by
  constructor
  · intro h q hq i hi
    exact h i (mem_unionAll.mpr ⟨q, hq, hi⟩)
  · intro h i hi
    obtain ⟨q, hq, hiq⟩ := mem_unionAll.mp hi
    exact h q hq i hiq

theorem contains_unionAll (a : Flags v) (qs : List (Flags v)) :
    a.contains (unionAll qs) = qs.all a.contains := by
  rw [Bool.eq_iff_iff, contains_iff, unionAll_subset]
  simp only [List.all_eq_true, contains_iff]

/-! ## The two kinds of query -/

/-- Queries of a set `a` that want any of the bits asked for. -/
structure AnyBit (a : Flags v) (ask : Flags v → Bool) : Prop where
  pieces : ∀ q, ask q = true ↔ ∃ x ∈ q.pieces, x.intersects a = true
  union : ∀ qs, ask (unionAll qs) = qs.any ask
  empty : ask ∅ = false

/-- Queries of a set `a` that want every bit asked for. -/
structure EveryBit (a : Flags v) (ask : Flags v → Bool) : Prop where
  pieces : ∀ q, ask q = true ↔ ∀ x ∈ q.pieces, a.contains x = true
  union : ∀ qs, ask (unionAll qs) = qs.all ask
  empty : ask ∅ = true

theorem anyBit_intersects (a : Flags v) : AnyBit a a.intersects where
  pieces q := by
    calc a.intersects q = true
      _ ↔ q.pieces.any a.intersects = true := by rw [← intersects_unionAll, unionAll_pieces]
      _ ↔ ∃ x ∈ q.pieces, x.intersects a = true := by
        simp only [List.any_eq_true, intersects_comm a]
  union := intersects_unionAll a
  empty := intersects_unionAll a []

theorem anyBit_isSet (a : Flags v) : AnyBit a a.isSet := anyBit_intersects a

theorem everyBit_contains (a : Flags v) : EveryBit a a.contains where
  pieces q := by
    rw [← List.all_eq_true, ← contains_unionAll, unionAll_pieces]
  union := contains_unionAll a
  empty := contains_unionAll a []

theorem isSet_eq_contains_iff {q : Flags v} :
    (∀ a : Flags v, a.isSet q = a.contains q) ↔ ∃! i, i ∈ q := by
  constructor
  · intro h
    -- the query itself tells that it has a bit, and that bit alone that it has no other
    have hself : q.isSet q = true := by
      rw [h, contains_iff]
      exact fun _ hi => hi
    obtain ⟨i, hi, _⟩ := intersects_iff.mp hself
    have hbit : i ∈ (bit i : Flags v) := mem_bit.mpr ⟨rfl, lt_of_mem hi⟩
    have hcontains : (bit i).contains q = true := by
      rw [← h]
      exact intersects_iff.mpr ⟨i, hbit, hi⟩
    refine ⟨i, hi, ?_⟩
    intro j hj
    exact (mem_bit.mp (contains_iff.mp hcontains j hj)).1
  · rintro ⟨i, hi, honly⟩ a
    rw [Bool.eq_iff_iff, isSet, intersects_iff, contains_iff]
    constructor
    · rintro ⟨j, hja, hjq⟩ k hk
      rw [honly k hk, ← honly j hjq]
      exact hja
    · intro hsub
      exact ⟨i, hsub i hi, hi⟩

end Flags

universe u

open Flags (AnyBit EveryBit)

/-- Asking for any bit of a query, or for every bit, is asking piece by piece. The two have the same
answer for every set exactly when the query has one bit and no more. -/
theorem queries_by_pieces :
    (∀ (v : Vocab) (a : Flags v),
      AnyBit a a.isSet ∧ AnyBit a a.intersects ∧ EveryBit a a.contains) ∧
    (∀ {τ : Type u} [CheckedType τ] (t : τ),
      AnyBit (CheckedType.flags t) (CheckedType.isTypeFlagSet t) ∧
      AnyBit (CheckedType.objectFlags t) (CheckedType.isObjectFlagSet t)) ∧
    (∀ {ν μ : Type} [Declared ν μ] [HasKind μ] (node : ν),
      AnyBit (Declared.flags node) (Declared.isFlagSet node)) ∧
    (∀ (v : Vocab) (q : Flags v),
      (∀ a : Flags v, a.isSet q = a.contains q) ↔ ∃! i, i ∈ q) := by
  refine ⟨?_, ?_, ?_, ?_⟩
  · intro v a
    exact ⟨Flags.anyBit_isSet a, Flags.anyBit_intersects a, Flags.everyBit_contains a⟩
  · intro τ _ t
    exact ⟨Flags.anyBit_intersects _, Flags.anyBit_intersects _⟩
  · intro ν μ _ _ node
    exact Flags.anyBit_intersects _
  · intro v q
    exact Flags.isSet_eq_contains_iff

/-- A composite and two bits without a name: the pieces of the composite are its bits. -/
example :
    let a : TypeFlags := ⟨0x40100000⟩
    let q : TypeFlags := TypeFlags.unionOrIntersection ∪ ⟨0xc0000000⟩
    q.pieces = [TypeFlags.union, TypeFlags.intersection, ⟨0xc0000000⟩] ∧
    a.isSet q = true ∧ a.contains q = false := by
  decide

end CheckerTags

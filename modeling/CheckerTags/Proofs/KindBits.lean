import CheckerTags.Kind.Basic
import Mathlib.Data.List.Nodup

/-!
# CheckerTags.Proofs.KindBits

The flag of a kind is one bit, and no two kinds have the same. A set of flags therefore has the
flag of a kind, or a bit in common with it, exactly when it has the kind's position.

* `Kind.mem_flag`: the only position of a kind's flag.
* `Kind.position_injective`: different kinds have different positions.
-/

namespace CheckerTags
namespace Kind

theorem injective_of_nodup {α : Type} {f : Kind → α} (distinct : (all.map f).Nodup) :
    Function.Injective f := by
  intro a b h
  exact List.inj_on_of_nodup_map distinct (mem_all a) (mem_all b) h

/-- Where the flag of a kind stands in the word. -/
def position (k : Kind) : Nat := k.flag.bits.toNat.log2

theorem flag_eq_bit (k : Kind) : k.flag = Flags.bit k.position := by
  cases k <;> decide

theorem position_lt_decorator (k : Kind) : k.position < 15 := by
  cases k <;> decide

theorem position_lt (k : Kind) : k.position < 32 :=
  Nat.lt_trans k.position_lt_decorator (by omega)

theorem position_injective : Function.Injective position :=
  injective_of_nodup (by decide)

@[simp] theorem mem_flag {i : Nat} {k : Kind} : i ∈ k.flag ↔ i = k.position := by
  rw [flag_eq_bit, Flags.mem_bit]
  exact and_iff_left k.position_lt

theorem flag_injective : Function.Injective flag := by
  intro a b h
  apply position_injective
  rw [← mem_flag, ← h, mem_flag]

theorem flag_subset {k : Kind} {fs : ModifierFlags} : k.flag ⊆ fs ↔ k.position ∈ fs := by
  simp [Flags.subset_def]

theorem flag_intersects {k : Kind} {fs : ModifierFlags} :
    k.flag.intersects fs = true ↔ k.position ∈ fs := by
  simp

end Kind
end CheckerTags

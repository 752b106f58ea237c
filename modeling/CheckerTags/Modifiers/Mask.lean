import CheckerTags.Modifiers.Item

/-!
# CheckerTags.Modifiers.Mask

Modifier lists as flag sets, and back. The mask of a list forgets order, repetition and whether
the list was there; `ModifierFlags.kinds` lists what it remembers.
-/

namespace CheckerTags

/-- The flags of all modifiers of a list. Absent and empty lists have the empty set. -/
def Modifiers.flags {μ : Type} [HasKind μ] (ms : Modifiers μ) : ModifierFlags :=
  ms.items.foldl (fun fs m => fs ∪ (HasKind.kind m).flag) ∅

namespace ModifierFlags

/-- The flags of a list of kinds. -/
def ofKinds (ks : List Kind) : ModifierFlags := Modifiers.flags (some ks)

/-- The kinds whose flag is in a set, in the order of kinds. Other bits do not count. -/
def kinds (fs : ModifierFlags) : List Kind := Kind.all.filter fun k => fs.contains k.flag

end ModifierFlags

theorem mem_foldl_flag {μ : Type} [HasKind μ] {i : Nat} (items : List μ) (fs : ModifierFlags) :
    i ∈ items.foldl (fun fs m => fs ∪ (HasKind.kind m).flag) fs ↔
      i ∈ fs ∨ ∃ m ∈ items, i ∈ (HasKind.kind m).flag := by
  induction items generalizing fs with
  | nil => simp
  | cons m rest ih => simp [ih, or_assoc]

@[simp] theorem Modifiers.mem_flags {μ : Type} [HasKind μ] {i : Nat} {ms : Modifiers μ} :
    i ∈ ms.flags ↔ ∃ m ∈ ms.items, i ∈ (HasKind.kind m).flag := by
  simp [Modifiers.flags, mem_foldl_flag]

@[simp] theorem ModifierFlags.mem_ofKinds {i : Nat} {ks : List Kind} :
    i ∈ ModifierFlags.ofKinds ks ↔ ∃ k ∈ ks, i ∈ k.flag :=
  Modifiers.mem_flags

@[simp] theorem ModifierFlags.mem_kinds {k : Kind} {fs : ModifierFlags} :
    k ∈ fs.kinds ↔ k.flag ⊆ fs := by
  simp [ModifierFlags.kinds, Kind.mem_all]

end CheckerTags

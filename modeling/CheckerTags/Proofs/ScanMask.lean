import CheckerTags.Declaration.Basic
import CheckerTags.Proofs.KindBits

/-!
# CheckerTags.Proofs.ScanMask

Asking a modifier list by scan and by mask. Both come down to the same question about its items,
whether one of them has a kind that is asked for: the scan because it stops only at such an item
(`Modifiers.has_iff`), the mask because the flag of an item meets a set of flags in the item's
own bit and nowhere else (`Modifiers.flags_intersects_iff`).
-/

namespace CheckerTags

variable {μ : Type} [HasKind μ]

theorem Scan.found_through {ks : List Kind} {items : List μ} :
    (Scan.through ks items).found = true ↔ ∃ m ∈ items, HasKind.kind m ∈ ks := by
  induction items with
  | nil => simp [through]
  | cons m rest ih =>
    by_cases h : HasKind.kind m ∈ ks
    · simp [through, h]
    · simp [through, h, ih]

theorem Modifiers.has_iff {ms : Modifiers μ} {ks : List Kind} :
    ms.has ks = true ↔ ∃ m ∈ ms.items, HasKind.kind m ∈ ks := by
  cases ms with
  | none => simp [has, scan, items]
  | some items => exact Scan.found_through

theorem Modifiers.flags_intersects_iff {ms : Modifiers μ} {fs : ModifierFlags} :
    ms.flags.intersects fs = true ↔ ∃ m ∈ ms.items, (HasKind.kind m).position ∈ fs := by
  simp only [Flags.intersects_iff, mem_flags, Kind.mem_flag]
  constructor
  · rintro ⟨i, ⟨m, hm, rfl⟩, hi⟩
    exact ⟨m, hm, hi⟩
  · rintro ⟨m, hm, hi⟩
    exact ⟨_, ⟨m, hm, rfl⟩, hi⟩

theorem Modifiers.mem_flags_iff {ms : Modifiers μ} {i : Nat} :
    i ∈ ms.flags ↔ ∃ k ∈ ms.kinds, i = k.position := by
  simp only [mem_flags, Kind.mem_flag, mem_kinds]
  constructor
  · rintro ⟨m, hm, rfl⟩
    exact ⟨_, ⟨m, hm, rfl⟩, rfl⟩
  · rintro ⟨_, ⟨m, hm, rfl⟩, rfl⟩
    exact ⟨m, hm, rfl⟩

/-- As no two kinds share a position, the flags tell which kinds occur. -/
theorem Modifiers.position_mem_flags {ms : Modifiers μ} {k : Kind} :
    k.position ∈ ms.flags ↔ k ∈ ms.kinds := by
  rw [mem_flags_iff]
  constructor
  · rintro ⟨k', hk', h⟩
    exact Kind.position_injective h ▸ hk'
  · intro h
    exact ⟨k, h, rfl⟩

namespace ModifierFlags

theorem position_mem_ofKinds {k : Kind} {ks : List Kind} :
    k.position ∈ ofKinds ks ↔ k ∈ ks := by
  rw [ofKinds, Modifiers.position_mem_flags, Modifiers.kinds_some]

/-- Bits that no keyword sets do not count, however many of them are in the set. -/
theorem mem_kinds_iff_position {k : Kind} {fs : ModifierFlags} :
    k ∈ fs.kinds ↔ k.position ∈ fs := by
  rw [mem_kinds, Kind.flag_subset]

/-- The flags that have a keyword. -/
def spelled : ModifierFlags := Flags.unionAll (Kind.all.map Kind.flag)

theorem mem_spelled {i : Nat} : i ∈ spelled ↔ ∃ k : Kind, i = k.position := by
  simp [spelled, Kind.mem_all]

/-- Going to kinds and back keeps the flags that have a keyword, and no others. -/
theorem ofKinds_kinds (fs : ModifierFlags) : ofKinds fs.kinds = fs ∩ spelled := by
  apply Flags.ext_mem
  intro i
  simp only [mem_ofKinds, mem_kinds_iff_position, Kind.mem_flag, Flags.mem_inter, mem_spelled]
  constructor
  · rintro ⟨k, hk, rfl⟩
    exact ⟨hk, k, rfl⟩
  · rintro ⟨hi, k, rfl⟩
    exact ⟨k, hi, rfl⟩

end ModifierFlags

theorem Modifiers.has_eq_mask (ms : Modifiers μ) (ks : List Kind) :
    ms.has ks = ms.flags.intersects (ModifierFlags.ofKinds ks) := by
  rw [Bool.eq_iff_iff, has_iff, flags_intersects_iff]
  simp only [ModifierFlags.position_mem_ofKinds]

theorem Modifiers.mask_eq_has (ms : Modifiers μ) (fs : ModifierFlags) :
    ms.flags.intersects fs = ms.has fs.kinds := by
  rw [Bool.eq_iff_iff, has_iff, flags_intersects_iff]
  simp only [ModifierFlags.mem_kinds_iff_position]

/-- Scan and mask give one answer: a list of kinds can be asked for through its flags, and any
set of flags through its kinds, on bare lists and on nodes. -/
theorem scan_agrees_with_mask :
    (∀ {μ : Type} [HasKind μ] (ms : Modifiers μ) (ks : List Kind),
      ms.has ks = ms.flags.intersects (ModifierFlags.ofKinds ks)) ∧
    (∀ {ν μ : Type} [Declared ν μ] [HasKind μ] (node : ν) (ks : List Kind),
      Declared.has node ks = Declared.isFlagSet node (ModifierFlags.ofKinds ks)) ∧
    (∀ {ν μ : Type} [Declared ν μ] [HasKind μ] (node : ν) (fs : ModifierFlags),
      Declared.isFlagSet node fs = Declared.has node fs.kinds) := by
  refine ⟨?_, ?_, ?_⟩
  · intro μ _ ms ks
    exact ms.has_eq_mask ks
  · intro ν μ _ _ node ks
    exact (Declared.modifiers node).has_eq_mask ks
  · intro ν μ _ _ node fs
    exact (Declared.modifiers node).mask_eq_has fs

end CheckerTags

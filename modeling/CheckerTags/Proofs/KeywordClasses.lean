import CheckerTags.Proofs.KindSets

/-!
# CheckerTags.Proofs.KeywordClasses

Classes of keywords. A composite of modifier flags stands for a class of keywords, and each of the
classes can be asked for in three ways: by the mask of the composite, by a look at the modifiers one
by one, and by a scan for the keywords of the class. A mask meets the flags of a list exactly if it
meets the flag of one of its modifiers, so the three ways agree for every mask that is made of
keywords (`Declared.asksFor_of_members`).

* `Declared.AsksFor`: the three ways.
* `Declared.isFlagSet_mono`: more modifiers, more flags.
-/

namespace CheckerTags

variable {μ : Type} [HasKind μ]

theorem Modifiers.flags_intersects_iff_exists_flag {ms : Modifiers μ} {test : ModifierFlags} :
    ms.flags.intersects test = true ↔
      ∃ m ∈ ms.items, (HasKind.kind m).flag.intersects test = true := by
  simp only [flags_intersects_iff, Kind.flag_intersects]

theorem Modifiers.has_iff_exists_kind {ms : Modifiers μ} {ks : List Kind} :
    ms.has ks = true ↔ ∃ k ∈ ks, k ∈ ms.kinds := by
  rw [has_iff]
  simp only [mem_kinds]
  constructor
  · rintro ⟨m, hm, hk⟩
    exact ⟨_, hk, m, hm, rfl⟩
  · rintro ⟨_, hk, m, hm, rfl⟩
    exact ⟨m, hm, hk⟩

theorem Modifiers.flags_mono {ν : Type} [HasKind ν] {ms : Modifiers μ} {ns : Modifiers ν}
    (h : ms.kinds ⊆ ns.kinds) : ms.flags ⊆ ns.flags := by
  rw [flags_subset_iff]
  intro k hk
  exact position_mem_flags.mpr (h hk)

namespace Declared

variable {ν : Type} [Declared ν μ]

/-- Asking a node for the bits of `test` is asking whether one of its modifiers is of the class
`isMember`, and also whether one of the kinds `members` is among them. -/
structure AsksFor (node : ν) (test : ModifierFlags) (isMember : Kind → Bool)
    (members : List Kind) : Prop where
  modifier : isFlagSet node test = true ↔
    ∃ m ∈ (modifiers node).items, isMember (HasKind.kind m) = true
  scan : isFlagSet node test = has node members
  kind : has node members = true ↔ ∃ k ∈ members, k ∈ (modifiers node).kinds

theorem asksFor_of_members {test : ModifierFlags} {members : List Kind}
    (h : test = ModifierFlags.ofKinds members) (node : ν) :
    AsksFor node test (fun k => k.flag.intersects test) members where
  modifier := Modifiers.flags_intersects_iff_exists_flag
  scan := by
    rw [h]
    exact ((modifiers node).has_eq_mask members).symm
  kind := Modifiers.has_iff_exists_kind

theorem isFlagSet_of_subset {node : ν} {test more : ModifierFlags} (hsub : test ⊆ more)
    (h : isFlagSet node test = true) : isFlagSet node more = true :=
  Flags.intersects_mono (fun _ hi => hi) hsub h

theorem isFlagSet_mono {ν' μ' : Type} [HasKind μ'] [Declared ν' μ'] {node : ν} {more : ν'}
    (hsub : (modifiers node).kinds ⊆ (modifiers more).kinds) {test : ModifierFlags}
    (h : isFlagSet node test = true) : isFlagSet more test = true :=
  Flags.intersects_mono (Modifiers.flags_mono hsub) (fun _ hi => hi) h

/-- The composites of modifier flags are classes of keywords, each inside the next, in whichever way
a node is asked for them. More kinds of modifiers have all the flags that fewer have. -/
theorem composites_are_classes (node : ν) :
    AsksFor node ModifierFlags.accessibilityModifier Kind.isAccessibility
      [.public, .private, .protected] ∧
    AsksFor node ModifierFlags.parameterPropertyModifier Kind.isParameterProperty
      [.public, .private, .protected, .readonly, .override] ∧
    AsksFor node ModifierFlags.typescriptModifier Kind.isTypescriptOnly
      [.public, .private, .protected, .abstract, .declare, .const, .override, .readonly, .in,
        .out] ∧
    (isFlagSet node ModifierFlags.nonPublicAccessibilityModifier = true ↔
      .private ∈ (modifiers node).kinds ∨ .protected ∈ (modifiers node).kinds) ∧
    (isFlagSet node ModifierFlags.accessibilityModifier = true →
      isFlagSet node ModifierFlags.parameterPropertyModifier = true) ∧
    (isFlagSet node ModifierFlags.parameterPropertyModifier = true →
      isFlagSet node ModifierFlags.typescriptModifier = true) ∧
    (∀ {ν' μ' : Type} [HasKind μ'] [Declared ν' μ'] (more : ν'),
      (modifiers node).kinds ⊆ (modifiers more).kinds →
        ∀ test, isFlagSet node test = true → isFlagSet more test = true) := by
  have hproperty :
      ModifierFlags.accessibilityModifier ⊆ ModifierFlags.parameterPropertyModifier :=
    Flags.contains_iff.mp (by decide)
  have htyped : ModifierFlags.parameterPropertyModifier ⊆ ModifierFlags.typescriptModifier :=
    Flags.contains_iff.mp (by decide)
  refine ⟨asksFor_of_members (by decide) node, asksFor_of_members (by decide) node,
    asksFor_of_members (by decide) node, ?_, isFlagSet_of_subset hproperty,
    isFlagSet_of_subset htyped, ?_⟩
  · have hasks := asksFor_of_members
      (by decide : ModifierFlags.nonPublicAccessibilityModifier =
        ModifierFlags.ofKinds [.private, .protected]) node
    rw [hasks.scan, hasks.kind]
    simp
  · intro ν' μ' _ _ more hsub test h
    exact isFlagSet_mono hsub h

/-- A list whose only modifier of any class is `protected`, and the list with others around. -/
theorem composites_are_classes_protected :
    let node : Declaration := ⟨some [.static, .protected, .protected]⟩
    let more : Declaration := ⟨some [.protected, .default, .static]⟩
    (isFlagSet node ModifierFlags.accessibilityModifier = true ∧
      isFlagSet node ModifierFlags.parameterPropertyModifier = true ∧
      isFlagSet node ModifierFlags.typescriptModifier = true) ∧
    (modifiers node).kinds ⊆ (modifiers more).kinds ∧
    isFlagSet more ModifierFlags.nonPublicAccessibilityModifier = true := by
  intro node more
  obtain ⟨_, _, _, hnonPublic, hproperty, htyped, hmono⟩ := composites_are_classes node
  have haccess : isFlagSet node ModifierFlags.accessibilityModifier = true := by decide
  have hsub : (modifiers node).kinds ⊆ (modifiers more).kinds := by decide
  have hprotected : isFlagSet node ModifierFlags.nonPublicAccessibilityModifier = true :=
    hnonPublic.mpr (by decide)
  exact ⟨⟨haccess, hproperty haccess, htyped (hproperty haccess)⟩, hsub,
    hmono more hsub _ hprotected⟩

end Declared
end CheckerTags

import CheckerTags.CheckedType.Guard

/-!
# CheckerTags.Proofs.TypeGuards

What the guards on types depend on. A guard reads a few bits of the type flags, and the guards for
kinds of object types a few bits of the object flags too (`Guard.typeBits`, `Guard.objectBits`). It
holds when one of each is set (`Guard.holds_iff`). So no other flag of a type counts, nor the way in
which the type is handed over, and more flags never undo a guard.

* `Guard.holds_congr`: types that agree on the bits of a guard.
* `Guard.holds_mono`: types with more flags.
* `CheckedType.flags_nest`, `CheckedType.objectFlags_nest`: types behind any number of handles.
-/

namespace CheckerTags

universe u w

/-! ## Handles on handles -/

namespace Handle

/-- Handles on handles on things of type `α`, `n` handles in all. -/
def Nested (α : Type u) : Nat → Type u
  | 0 => α
  | n + 1 => Handle (Nested α n)

/-- A thing behind `n` handles. -/
def nest {α : Type u} (a : α) : (n : Nat) → Nested α n
  | 0 => a
  | n + 1 => ⟨nest a n⟩

end Handle

namespace CheckedType

open Handle (Nested nest)

instance nested (τ : Type u) [CheckedType τ] : (n : Nat) → CheckedType (Nested τ n)
  | 0 => inferInstanceAs (CheckedType τ)
  | n + 1 =>
    let _ := nested τ n
    inferInstanceAs (CheckedType (Handle (Nested τ n)))

section

variable {τ : Type u} [CheckedType τ]

@[simp] theorem flags_nest (t : τ) (n : Nat) : flags (nest t n) = flags t := by
  induction n with
  | zero => rfl
  | succ n ih => exact ih

@[simp] theorem objectFlags_nest (t : τ) (n : Nat) : objectFlags (nest t n) = objectFlags t := by
  induction n with
  | zero => rfl
  | succ n ih => exact ih

end

/-! ## Guards -/

/-- The guards by name. -/
inductive Guard where
  | conditional
  | enum
  | index
  | indexedAccess
  | intersection
  | object
  | substitution
  | templateLiteral
  | typeParameter
  | unionOrIntersection
  | union
  | uniqueEsSymbol
  | typeReference
  | tuple
  | classOrInterface

namespace Guard

/-- Whether a type passes a guard. -/
def holds {τ : Type u} [CheckedType τ] (g : Guard) (t : τ) : Bool :=
  match g with
  | .conditional => isConditional t
  | .enum => isEnum t
  | .index => isIndex t
  | .indexedAccess => isIndexedAccess t
  | .intersection => isIntersection t
  | .object => isObject t
  | .substitution => isSubstitution t
  | .templateLiteral => isTemplateLiteral t
  | .typeParameter => isTypeParameter t
  | .unionOrIntersection => isUnionOrIntersection t
  | .union => isUnion t
  | .uniqueEsSymbol => isUniqueEsSymbol t
  | .typeReference => isTypeReference t
  | .tuple => isTuple t
  | .classOrInterface => isClassOrInterface t

/-- The positions of the type flags that a guard reads. -/
def typeBits : Guard → List Nat
  | .conditional => [24]
  | .enum => [5]
  | .index => [22]
  | .indexedAccess => [23]
  | .intersection => [21]
  | .object => [19]
  | .substitution => [25]
  | .templateLiteral => [27]
  | .typeParameter => [18]
  | .unionOrIntersection => [20, 21]
  | .union => [20]
  | .uniqueEsSymbol => [13]
  | .typeReference => [19]
  | .tuple => [19]
  | .classOrInterface => [19]

/-- The positions of the object flags that a guard reads; none, if it is not about object types. -/
def objectBits : Guard → List Nat
  | .typeReference => [2]
  | .tuple => [3]
  | .classOrInterface => [0, 1]
  | _ => []

end Guard

section

variable {τ : Type u} [CheckedType τ] {σ : Type w} [CheckedType σ] {t : τ} {u : σ}

theorem isUnionOrIntersection_eq (t : τ) :
    isUnionOrIntersection t = (isUnion t || isIntersection t) :=
  Flags.intersects_union (flags t) TypeFlags.union TypeFlags.intersection

theorem isTypeFlagSet_structuredType (t : τ) :
    isTypeFlagSet t TypeFlags.structuredType = (isObject t || isUnionOrIntersection t) := by
  rw [isTypeFlagSet, TypeFlags.structuredType, Flags.union_assoc, Flags.intersects_union]
  rfl

theorem isObject_iff : isObject t = true ↔ 19 ∈ flags t :=
  Flags.intersects_bit (by decide)

theorem Guard.holds_iff (g : Guard) (t : τ) :
    g.holds t = true ↔ (∃ i ∈ g.typeBits, i ∈ flags t) ∧
      (g.objectBits = [] ∨ ∃ i ∈ g.objectBits, i ∈ objectFlags t) := by
  have single {i : Nat} (hi : i < 32) : isTypeFlagSet t (Flags.bit i) = true ↔
      (∃ j ∈ [i], j ∈ flags t) ∧ (([] : List Nat) = [] ∨ ∃ j ∈ [], j ∈ objectFlags t) := by
    simp [isTypeFlagSet, hi]
  cases g with
  | unionOrIntersection =>
    simp [holds, typeBits, objectBits, isUnionOrIntersection_eq, isUnion, isIntersection,
      isTypeFlagSet, TypeFlags.union, TypeFlags.intersection]
  | typeReference =>
    simp [holds, typeBits, objectBits, isTypeReference, isObject_iff, isObjectFlagSet,
      ObjectFlags.reference]
  | tuple =>
    simp [holds, typeBits, objectBits, isTuple, isObject_iff, isObjectFlagSet, ObjectFlags.tuple]
  | classOrInterface =>
    simp [holds, typeBits, objectBits, isClassOrInterface, isObject_iff, isObjectFlagSet,
      ObjectFlags.classOrInterface, ObjectFlags.class, ObjectFlags.interface, and_or_left,
      exists_or]
  | _ => exact single (by decide)

theorem Guard.holds_congr (g : Guard) (htype : ∀ i ∈ g.typeBits, i ∈ flags t ↔ i ∈ flags u)
    (hobject : ∀ i ∈ g.objectBits, i ∈ objectFlags t ↔ i ∈ objectFlags u) :
    g.holds t = g.holds u := by
  have htypes : (∃ i ∈ g.typeBits, i ∈ flags t) ↔ ∃ i ∈ g.typeBits, i ∈ flags u :=
    exists_congr fun i => and_congr_right (htype i)
  have hobjects : (∃ i ∈ g.objectBits, i ∈ objectFlags t) ↔
      ∃ i ∈ g.objectBits, i ∈ objectFlags u :=
    exists_congr fun i => and_congr_right (hobject i)
  rw [Bool.eq_iff_iff, holds_iff, holds_iff, htypes, hobjects]

theorem Guard.holds_mono {g : Guard} (htype : flags t ⊆ flags u)
    (hobject : objectFlags t ⊆ objectFlags u) (h : g.holds t = true) : g.holds u = true := by
  obtain ⟨⟨i, hi, hit⟩, hobjects⟩ := (holds_iff g t).mp h
  refine (holds_iff g u).mpr ⟨⟨i, hi, htype i hit⟩, ?_⟩
  rcases hobjects with hnone | ⟨j, hj, hjt⟩
  · exact .inl hnone
  · exact .inr ⟨j, hj, hobject j hjt⟩

/-! ## Object flags -/

theorem isObjectFlagSet_iff {test : ObjectFlags} :
    isObjectFlagSet t test = true ↔ ∃ i ∈ test, i ∈ objectFlags t := by
  simp only [isObjectFlagSet, Flags.intersects_iff, and_comm]

theorem isObjectFlagSet_of_empty (h : objectFlags t = ∅) (test : ObjectFlags) :
    isObjectFlagSet t test = false := by
  rw [Bool.eq_false_iff, Ne, isObjectFlagSet_iff, h]
  simp

/-! ## Things that give the same answers -/

/-- No query on types tells the two apart. -/
structure AnswersAlike (t : τ) (u : σ) : Prop where
  guard : ∀ g : Guard, g.holds t = g.holds u
  type : ∀ test, isTypeFlagSet t test = isTypeFlagSet u test
  object : ∀ test, isObjectFlagSet t test = isObjectFlagSet u test

theorem answersAlike_of_flags_eq (htype : flags t = flags u)
    (hobject : objectFlags t = objectFlags u) : AnswersAlike t u where
  guard g := g.holds_congr (fun i _ => by rw [htype]) (fun i _ => by rw [hobject])
  type test := by rw [isTypeFlagSet, isTypeFlagSet, htype]
  object test := by rw [isObjectFlagSet, isObjectFlagSet, hobject]

theorem answersAlike_nest (t : τ) (n : Nat) : AnswersAlike (nest t n) t :=
  answersAlike_of_flags_eq (flags_nest t n) (objectFlags_nest t n)

end

theorem answersAlike_any {τ : Type} [CheckedType τ] (t : τ) (m n : Nat) :
    AnswersAlike (nest (⟨nest t m⟩ : AnyType) n) t := by
  refine answersAlike_of_flags_eq ?_ ?_
  · rw [flags_nest]
    exact flags_nest t m
  · rw [objectFlags_nest]
    exact objectFlags_nest t m

/-- A guard holds if and only if one of its type flags is set and, for a kind of object types, one
of its object flags too. No other flag counts, nor the way in which a type is handed over. -/
theorem guards_read_own_bits :
    (∀ {τ : Type u} [CheckedType τ] (t : τ),
      (∀ g : Guard, g.holds t = true ↔ (∃ i ∈ g.typeBits, i ∈ flags t) ∧
        (g.objectBits = [] ∨ ∃ i ∈ g.objectBits, i ∈ objectFlags t)) ∧
      isUnionOrIntersection t = (isUnion t || isIntersection t) ∧
      isTypeFlagSet t TypeFlags.structuredType = (isObject t || isUnionOrIntersection t)) ∧
    (∀ {τ : Type u} {σ : Type w} [CheckedType τ] [CheckedType σ] (t : τ) (u : σ) (g : Guard),
      ((∀ i ∈ g.typeBits, i ∈ flags t ↔ i ∈ flags u) →
        (∀ i ∈ g.objectBits, i ∈ objectFlags t ↔ i ∈ objectFlags u) → g.holds t = g.holds u) ∧
      (flags t ⊆ flags u → objectFlags t ⊆ objectFlags u →
        g.holds t = true → g.holds u = true)) ∧
    (∀ {τ : Type u} [CheckedType τ] (t : τ),
      (¬ 19 ∈ flags t →
        isTypeReference t = false ∧ isTuple t = false ∧ isClassOrInterface t = false) ∧
      ∀ test, isObjectFlagSet t test = true ↔ ∃ i ∈ test, i ∈ objectFlags t) ∧
    (∀ {τ : Type u} (typeFlags : τ → TypeFlags) (t : τ),
      let _ : CheckedType τ := { flags := typeFlags }
      (isTypeReference t = false ∧ isTuple t = false ∧ isClassOrInterface t = false) ∧
      ∀ test, isObjectFlagSet t test = false) ∧
    (∀ {τ : Type u} [CheckedType τ] (t : τ) (n : Nat), AnswersAlike (nest t n) t) ∧
    (∀ {τ : Type} [CheckedType τ] (t : τ) (m n : Nat),
      AnswersAlike (nest (⟨nest t m⟩ : AnyType) n) t) := by
  refine ⟨?_, ?_, ?_, ?_, answersAlike_nest, answersAlike_any⟩
  · intro τ _ t
    exact ⟨fun g => g.holds_iff t, isUnionOrIntersection_eq t, isTypeFlagSet_structuredType t⟩
  · intro τ σ _ _ t u g
    exact ⟨g.holds_congr, Guard.holds_mono⟩
  · intro τ _ t
    refine ⟨?_, fun test => isObjectFlagSet_iff⟩
    intro h
    have hobject : isObject t = false := by rwa [Bool.eq_false_iff, Ne, isObject_iff]
    simp only [isTypeReference, isTuple, isClassOrInterface, hobject, Bool.false_and, and_self]
  · intro τ typeFlags t _
    have hnone : ∀ test, isObjectFlagSet t test = false := isObjectFlagSet_of_empty rfl
    refine ⟨?_, hnone⟩
    simp only [isTypeReference, isTuple, isClassOrInterface, hnone, Bool.and_false, and_self]

/-- Tuples with other bits around, some of them unknown, and a union with stray object flags. -/
theorem guards_read_own_bits_tuples :
    let t : ObjectType := ⟨⟨0x80080000⟩, ⟨0x40000008⟩⟩
    let u : ObjectType := ⟨⟨0x000c0001⟩, ⟨0x0000000b⟩⟩
    let more : ObjectType := ⟨⟨0x80180000⟩, ⟨0x4000000c⟩⟩
    let stray : ObjectType := ⟨TypeFlags.union, ObjectFlags.tuple ∪ ObjectFlags.reference⟩
    ((∀ i ∈ Guard.tuple.typeBits, i ∈ t.flags ↔ i ∈ u.flags) ∧
      (∀ i ∈ Guard.tuple.objectBits, i ∈ t.objectFlags ↔ i ∈ u.objectFlags) ∧
      isTuple t = isTuple u) ∧
    (t.flags ⊆ more.flags ∧ t.objectFlags ⊆ more.objectFlags ∧ isTuple t = true ∧
      isTuple more = true) ∧
    (¬ 19 ∈ stray.flags ∧ isTuple stray = false ∧
      isObjectFlagSet stray ObjectFlags.tuple = true) := by
  intro t u more stray
  obtain ⟨_, htwo, hstray, _⟩ := guards_read_own_bits
  have htype : ∀ i ∈ Guard.tuple.typeBits, i ∈ t.flags ↔ i ∈ u.flags := by decide
  have hobject : ∀ i ∈ Guard.tuple.objectBits, i ∈ t.objectFlags ↔ i ∈ u.objectFlags := by decide
  have htypes : t.flags ⊆ more.flags := Flags.contains_iff.mp (by decide)
  have hobjects : t.objectFlags ⊆ more.objectFlags := Flags.contains_iff.mp (by decide)
  have htuple : isTuple t = true := by decide
  have hno : ¬ 19 ∈ stray.flags := by decide
  refine ⟨⟨htype, hobject, (htwo t u .tuple).1 htype hobject⟩,
    ⟨htypes, hobjects, htuple, (htwo t more .tuple).2 htypes hobjects htuple⟩,
    ⟨hno, ((hstray stray).1 hno).2.1, ?_⟩⟩
  exact ((hstray stray).2 _).mpr ⟨3, by decide, by decide⟩

end CheckedType
end CheckerTags

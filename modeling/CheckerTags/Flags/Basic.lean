/-!
# CheckerTags.Flags.Basic

Sets of flags: 32-bit words, tagged with the vocabulary that names their bits.

A flag set is looked at through the positions of its bits: `i ∈ a` says that bit `i` of `a` is
set. Every operation has one lemma that says what it does to the positions (`mem_union`,
`mem_sdiff`, ...), and two sets with the same positions are equal (`Flags.ext_mem`).

None of the operations here truncates: bits that no constant names are treated like all others.

* `Flags.contains` asks for every bit of the query, `Flags.intersects` for at least one.
* `Constant.find?` looks a name up in a table of named sets.
-/

namespace CheckerTags

/-- What a word of flags is about, and so which names its bits have. -/
inductive Vocab where
  /-- Modifiers combined over a declaration. -/
  | modifier
  /-- Classification of a type. -/
  | type
  /-- Further classification of the types that are object types. -/
  | object
  deriving DecidableEq

/-- A set of flags of one vocabulary. Bits without a name are kept. -/
@[ext]
structure Flags (v : Vocab) where
  bits : BitVec 32
  deriving DecidableEq

abbrev ModifierFlags := Flags .modifier
abbrev TypeFlags := Flags .type
abbrev ObjectFlags := Flags .object

namespace Flags

variable {v : Vocab}

/-! ## Positions -/

instance : Membership Nat (Flags v) where
  mem a i := a.bits.getLsbD i = true

instance (i : Nat) (a : Flags v) : Decidable (i ∈ a) :=
  instDecidableEqBool (a.bits.getLsbD i) true

theorem mem_def {i : Nat} {a : Flags v} : i ∈ a ↔ a.bits.getLsbD i = true := Iff.rfl

theorem lt_of_mem {i : Nat} {a : Flags v} (h : i ∈ a) : i < 32 :=
  BitVec.lt_of_getLsbD h

theorem ext_mem {a b : Flags v} (h : ∀ i, i ∈ a ↔ i ∈ b) : a = b := by
  apply Flags.ext
  apply BitVec.eq_of_getLsbD_eq
  intro i _
  exact Bool.eq_iff_iff.mpr (h i)

instance : HasSubset (Flags v) where
  Subset a b := ∀ i, i ∈ a → i ∈ b

theorem subset_def {a b : Flags v} : a ⊆ b ↔ ∀ i, i ∈ a → i ∈ b := Iff.rfl

/-! ## Sets of no bit and of one bit -/

instance : EmptyCollection (Flags v) where
  emptyCollection := ⟨0⟩

instance : Inhabited (Flags v) where
  default := ∅

@[simp] theorem not_mem_empty (i : Nat) : ¬ i ∈ (∅ : Flags v) := by
  simp [mem_def, EmptyCollection.emptyCollection]

/-- The set of bit `i` alone; empty for a position past the word. -/
def bit (i : Nat) : Flags v := ⟨BitVec.twoPow 32 i⟩

@[simp] theorem mem_bit {i j : Nat} : j ∈ (bit i : Flags v) ↔ j = i ∧ i < 32 := by
  simp only [mem_def, bit, BitVec.getLsbD_twoPow]
  by_cases h : i = j
  · subst h; simp
  · simp [h, Ne.symm h]

def isEmpty (a : Flags v) : Bool := a == ∅

@[simp] theorem isEmpty_iff {a : Flags v} : a.isEmpty = true ↔ a = ∅ := by
  simp [isEmpty]

/-! ## Operations -/

instance : Union (Flags v) where
  union a b := ⟨a.bits ||| b.bits⟩

instance : Inter (Flags v) where
  inter a b := ⟨a.bits &&& b.bits⟩

instance : SDiff (Flags v) where
  sdiff a b := ⟨a.bits &&& ~~~b.bits⟩

/-- The bits in exactly one of two sets. -/
def symmDiff (a b : Flags v) : Flags v := ⟨a.bits ^^^ b.bits⟩

@[simp] theorem mem_union {i : Nat} {a b : Flags v} : i ∈ a ∪ b ↔ i ∈ a ∨ i ∈ b := by
  simp [mem_def, Union.union]

@[simp] theorem mem_inter {i : Nat} {a b : Flags v} : i ∈ a ∩ b ↔ i ∈ a ∧ i ∈ b := by
  simp [mem_def, Inter.inter]

@[simp] theorem mem_sdiff {i : Nat} {a b : Flags v} : i ∈ a \ b ↔ i ∈ a ∧ ¬ i ∈ b := by
  simp only [mem_def, SDiff.sdiff, BitVec.getLsbD_and, BitVec.getLsbD_not, Bool.and_eq_true,
    Bool.not_eq_true', Bool.not_eq_true, decide_eq_true_eq]
  exact ⟨fun h => ⟨h.1, h.2.2⟩, fun h => ⟨h.1, BitVec.lt_of_getLsbD h.1, h.2⟩⟩

@[simp] theorem mem_symmDiff {i : Nat} {a b : Flags v} :
    i ∈ a.symmDiff b ↔ ¬ (i ∈ a ↔ i ∈ b) := by
  simp only [mem_def, symmDiff, BitVec.getLsbD_xor]
  cases a.bits.getLsbD i <;> cases b.bits.getLsbD i <;> simp

theorem symmDiff_empty (a : Flags v) : a.symmDiff ∅ = a := Flags.ext BitVec.xor_zero

theorem symmDiff_assoc (a b c : Flags v) : (a.symmDiff b).symmDiff c = a.symmDiff (b.symmDiff c) :=
  Flags.ext (BitVec.xor_assoc a.bits b.bits c.bits)

theorem symmDiff_right_inj (a : Flags v) {b c : Flags v} :
    a.symmDiff b = a.symmDiff c ↔ b = c := by
  rw [Flags.ext_iff, Flags.ext_iff]
  exact BitVec.xor_right_inj a.bits

def unionAll (items : List (Flags v)) : Flags v := items.foldl (· ∪ ·) ∅

theorem mem_foldl_union {i : Nat} (items : List (Flags v)) (a : Flags v) :
    i ∈ items.foldl (· ∪ ·) a ↔ i ∈ a ∨ ∃ x ∈ items, i ∈ x := by
  induction items generalizing a with
  | nil => simp
  | cons x xs ih => simp [ih, or_assoc]

@[simp] theorem mem_unionAll {i : Nat} {items : List (Flags v)} :
    i ∈ unionAll items ↔ ∃ x ∈ items, i ∈ x := by
  simp [unionAll, mem_foldl_union]

@[simp] theorem union_empty (a : Flags v) : a ∪ ∅ = a := by
  apply ext_mem
  intro i
  simp

theorem union_assoc (a b c : Flags v) : a ∪ b ∪ c = a ∪ (b ∪ c) := by
  apply ext_mem
  intro i
  simp [or_assoc]

theorem unionAll_cons (a : Flags v) (items : List (Flags v)) :
    unionAll (a :: items) = a ∪ unionAll items := by
  apply ext_mem
  intro i
  simp

theorem unionAll_append (xs ys : List (Flags v)) :
    unionAll (xs ++ ys) = unionAll xs ∪ unionAll ys := by
  apply ext_mem
  intro i
  simp [or_and_right, exists_or]

theorem unionAll_singleton (a : Flags v) : unionAll [a] = a := by
  apply ext_mem
  intro i
  simp

theorem unionAll_congr {xs ys : List (Flags v)} (h : ∀ x, x ∈ xs ↔ x ∈ ys) :
    unionAll xs = unionAll ys := by
  apply ext_mem
  intro i
  simp only [mem_unionAll, h]

/-! ## Queries -/

/-- Whether every bit of `b` is in `a`. -/
def contains (a b : Flags v) : Bool := a ∩ b == b

/-- Whether some bit is in both sets. -/
def intersects (a b : Flags v) : Bool := a ∩ b != ∅

/-- Whether any bit of `test` is present in `all`. Composites such as
`TypeFlags.unionOrIntersection` therefore match when either half is set; `contains` asks for
every bit. -/
def isSet (all test : Flags v) : Bool := all.intersects test

theorem inter_eq_left {a b : Flags v} : a ∩ b = a ↔ a ⊆ b := by
  constructor
  · intro h i hi
    rw [← h] at hi
    exact (mem_inter.mp hi).2
  · intro h
    apply ext_mem
    intro i
    rw [mem_inter, and_iff_left_iff_imp]
    exact h i

theorem inter_comm (a b : Flags v) : a ∩ b = b ∩ a := by
  apply ext_mem
  intro i
  simp only [mem_inter, and_comm]

@[simp] theorem contains_iff {a b : Flags v} : a.contains b = true ↔ b ⊆ a := by
  rw [contains, beq_iff_eq, inter_comm, inter_eq_left]

theorem eq_empty_iff {a : Flags v} : a = ∅ ↔ ∀ i, ¬ i ∈ a :=
  ⟨fun h i => h ▸ not_mem_empty i, fun h => ext_mem fun i => by simp [h i]⟩

theorem inter_eq_empty {a b : Flags v} : a ∩ b = ∅ ↔ ∀ i, i ∈ a → ¬ i ∈ b := by
  rw [eq_empty_iff]
  simp only [mem_inter, not_and]

theorem sdiff_eq_empty {a b : Flags v} : a \ b = ∅ ↔ a ⊆ b := by
  rw [eq_empty_iff, subset_def]
  simp only [mem_sdiff, not_and, Classical.not_not]

theorem union_eq_left {a b : Flags v} : a ∪ b = a ↔ b ⊆ a := by
  constructor
  · intro h i hi
    rw [← h]
    exact mem_union.mpr (.inr hi)
  · intro h
    apply ext_mem
    intro i
    rw [mem_union, or_iff_left_iff_imp]
    exact h i

theorem union_sdiff_cancel {a b : Flags v} (h : a ∩ b = ∅) : (a ∪ b) \ b = a := by
  apply ext_mem
  intro i
  rw [mem_sdiff, mem_union]
  constructor
  · rintro ⟨ha | hb, hne⟩
    · exact ha
    · exact absurd hb hne
  · intro ha
    exact ⟨.inl ha, inter_eq_empty.mp h i ha⟩

theorem bit_ne_empty {i : Nat} (hi : i < 32) : (bit i : Flags v) ≠ ∅ := by
  intro h
  exact eq_empty_iff.mp h i (mem_bit.mpr ⟨rfl, hi⟩)

theorem bit_subset {i : Nat} (hi : i < 32) {a : Flags v} : bit i ⊆ a ↔ i ∈ a := by
  constructor
  · intro h
    exact h i (mem_bit.mpr ⟨rfl, hi⟩)
  · intro h j hj
    rw [(mem_bit.mp hj).1]
    exact h

theorem bit_inter_bit {i j : Nat} (h : i ≠ j) : (bit i ∩ bit j : Flags v) = ∅ := by
  rw [inter_eq_empty]
  intro k hi hj
  exact h ((mem_bit.mp hi).1.symm.trans (mem_bit.mp hj).1)

@[simp] theorem intersects_iff {a b : Flags v} :
    a.intersects b = true ↔ ∃ i, i ∈ a ∧ i ∈ b := by
  simp only [intersects, bne_iff_ne, ne_eq, eq_empty_iff, mem_inter, Classical.not_forall,
    Classical.not_not]

theorem intersects_eq_false {a b : Flags v} : a.intersects b = false ↔ a ∩ b = ∅ :=
  bne_eq_false_iff_eq

theorem intersects_comm (a b : Flags v) : a.intersects b = b.intersects a := by
  rw [intersects, intersects, inter_comm]

theorem intersects_bit {i : Nat} (hi : i < 32) {a : Flags v} :
    a.intersects (bit i) = true ↔ i ∈ a := by
  simp [hi]

theorem intersects_union (a b c : Flags v) :
    a.intersects (b ∪ c) = (a.intersects b || a.intersects c) := by
  rw [Bool.eq_iff_iff]
  simp only [Bool.or_eq_true, intersects_iff, mem_union, and_or_left, exists_or]

theorem intersects_mono {a b c d : Flags v} (hac : a ⊆ c) (hbd : b ⊆ d)
    (h : a.intersects b = true) : c.intersects d = true := by
  obtain ⟨i, ha, hb⟩ := intersects_iff.mp h
  exact intersects_iff.mpr ⟨i, hac i ha, hbd i hb⟩

end Flags

/-! ## Named sets -/

/-- A name and the flags it stands for. -/
structure Constant (v : Vocab) where
  name : String
  flags : Flags v
  deriving DecidableEq

/-- The flags that `name` stands for in a table. The name has to be spelled exactly, and the first
row with it answers. -/
def Constant.find? {v : Vocab} (table : List (Constant v)) (name : String) : Option (Flags v) :=
  (table.find? (fun c => c.name == name)).map Constant.flags

end CheckerTags

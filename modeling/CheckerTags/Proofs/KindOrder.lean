import CheckerTags.Proofs.ScanMask
import Mathlib.Data.List.Sort

/-!
# CheckerTags.Proofs.KindOrder

The order of kinds, and lists of kinds in order. It is the order of `Kind.all` and of the keywords,
though not that of the bits. A strictly increasing list is determined by its members, so the kinds
of a set of flags, listed in the order of `Kind.all`, are what sorting gives once repetitions are
dropped.

* `Kind.pairwise_sortedUnique`, `Kind.mem_sortedUnique`: sorting and dropping repetitions.
* `ModifierFlags.pairwise_kinds`, `ModifierFlags.mem_kinds_ofKinds`: going to flags and back.
* `Kind.head?_eq_min?`, `Kind.getLast?_eq_max?`: the ends of an increasing list.
-/

namespace CheckerTags

/-! ## Dropping repetitions -/

section Repetitions

variable {α : Type} [BEq α]

theorem eraseReps_loop_eq_append (a : α) (l acc : List α) :
    List.eraseRepsBy.loop (· == ·) a l acc =
      acc.reverse ++ List.eraseRepsBy.loop (· == ·) a l [] := by
  induction l generalizing a acc with
  | nil => simp [List.eraseRepsBy.loop]
  | cons b l ih =>
    simp only [List.eraseRepsBy.loop]
    cases a == b with
    | true => exact ih a acc
    | false => rw [ih b (a :: acc), ih b [a], List.reverse_cons, List.append_assoc]; rfl

variable [LawfulBEq α]

theorem eraseReps_cons_self (a : α) (l : List α) :
    (a :: a :: l).eraseReps = (a :: l).eraseReps := by
  simp [List.eraseReps, List.eraseRepsBy, List.eraseRepsBy.loop]

theorem eraseReps_cons_of_ne {a b : α} (h : a ≠ b) (l : List α) :
    (a :: b :: l).eraseReps = a :: (b :: l).eraseReps := by
  have hab : (a == b) = false := beq_eq_false_iff_ne.mpr h
  simp only [List.eraseReps, List.eraseRepsBy, List.eraseRepsBy.loop, hab]
  exact eraseReps_loop_eq_append b l [a]

theorem mem_eraseReps_cons {x a : α} {l : List α} :
    x ∈ (a :: l).eraseReps ↔ x ∈ a :: l := by
  induction l generalizing a with
  | nil => rfl
  | cons b l ih =>
    by_cases h : a = b
    · subst h
      rw [eraseReps_cons_self, ih]
      simp
    · rw [eraseReps_cons_of_ne h, List.mem_cons, ih, List.mem_cons (l := b :: l)]

theorem mem_eraseReps {x : α} {l : List α} : x ∈ l.eraseReps ↔ x ∈ l := by
  cases l with
  | nil => rfl
  | cons a l => exact mem_eraseReps_cons

/-- In a list in order equal items stand together, so one of each is left. -/
theorem pairwise_lt_eraseReps [LE α] [LT α] [Std.IsLinearOrder α] [Std.LawfulOrderLT α]
    {l : List α} (h : l.Pairwise (· ≤ ·)) : l.eraseReps.Pairwise (· < ·) := by
  induction l with
  | nil => exact .nil
  | cons a l ih =>
    cases l with
    | nil => exact List.pairwise_singleton _ a
    | cons b l =>
      obtain ⟨ha, hl⟩ := List.pairwise_cons.mp h
      by_cases hab : a = b
      · subst hab
        rw [eraseReps_cons_self]
        exact ih hl
      · rw [eraseReps_cons_of_ne hab]
        refine .cons ?_ (ih hl)
        intro x hx
        have hlt : a < b := Std.lt_of_le_of_ne (ha b List.mem_cons_self) hab
        rcases List.mem_cons.mp (mem_eraseReps_cons.mp hx) with rfl | hx
        · exact hlt
        · exact Std.lt_of_lt_of_le hlt (List.rel_of_pairwise_cons hl hx)

end Repetitions

namespace Kind

/-! ## The order -/

theorem le_def {a b : Kind} : a ≤ b ↔ a.index ≤ b.index := Iff.rfl

theorem lt_def {a b : Kind} : a < b ↔ a.index < b.index := Iff.rfl

instance : Std.IsLinearOrder Kind := .of_le
  ⟨fun _ _ h₁ h₂ => index_injective (Nat.le_antisymm h₁ h₂)⟩
  ⟨fun h₁ h₂ => Nat.le_trans h₁ h₂⟩
  ⟨fun a b => Nat.le_total a.index b.index⟩

instance : Std.LawfulOrderLT Kind where
  lt_iff a b := by
    rw [lt_def, le_def, le_def]
    omega

instance : Std.LawfulOrderLeftLeaningMin Kind := .of_eq fun _ _ => rfl

instance : Std.LawfulOrderLeftLeaningMax Kind where
  max_eq_left a b h := by
    show (if a ≤ b then b else a) = a
    split
    · next hab => exact Std.le_antisymm h hab
    · rfl
  max_eq_right a b h := if_pos (Std.le_of_not_ge h)

theorem idxOf_all (k : Kind) : all.idxOf k = k.index := by
  cases k <;> rfl

theorem pairwise_all : all.Pairwise (· < ·) := by decide

/-- Keywords stand in the order of their kinds. -/
theorem keyword_le_keyword {a b : Kind} : a.keyword ≤ b.keyword ↔ a ≤ b := by
  have ordered : ∀ a ∈ all, ∀ b ∈ all, (a.keyword ≤ b.keyword ↔ a ≤ b) := by decide
  exact ordered a (mem_all a) b (mem_all b)

/-! ## Sorting -/

theorem sorted_perm (ks : List Kind) : (sorted ks).Perm ks :=
  List.mergeSort_perm ks _

theorem pairwise_sorted (ks : List Kind) : (sorted ks).Pairwise (· ≤ ·) :=
  List.pairwise_mergeSort' (· ≤ ·) ks

theorem sorted_eq_mergeSort_keyword (ks : List Kind) :
    sorted ks = ks.mergeSort fun a b => decide (a.keyword ≤ b.keyword) := by
  simp only [sorted, keyword_le_keyword]

theorem mem_sortedUnique {k : Kind} {ks : List Kind} : k ∈ sortedUnique ks ↔ k ∈ ks := by
  rw [sortedUnique, mem_eraseReps, (sorted_perm ks).mem_iff]

theorem pairwise_sortedUnique (ks : List Kind) : (sortedUnique ks).Pairwise (· < ·) :=
  pairwise_lt_eraseReps (pairwise_sorted ks)

/-! ## The ends of an increasing list -/

theorem min?_congr {l ks : List Kind} (h : ∀ k, k ∈ l ↔ k ∈ ks) : l.min? = ks.min? := by
  ext k
  simp only [List.min?_eq_some_iff, h]

theorem max?_congr {l ks : List Kind} (h : ∀ k, k ∈ l ↔ k ∈ ks) : l.max? = ks.max? := by
  ext k
  simp only [List.max?_eq_some_iff, h]

theorem head?_eq_min? {l : List Kind} (h : l.Pairwise (· < ·)) : l.head? = l.min? := by
  refine (List.min?_eq_head? (h.imp fun {a b} hab => ?_)).symm
  exact Std.LawfulOrderLeftLeaningMin.min_eq_left a b (Std.le_of_lt hab)

theorem getLast?_eq_max? {l : List Kind} (h : l.Pairwise (· < ·)) : l.getLast? = l.max? := by
  rcases List.eq_nil_or_concat l with rfl | ⟨front, k, rfl⟩
  · rfl
  · rw [List.concat_eq_append] at h ⊢
    obtain ⟨-, -, hlast⟩ := List.pairwise_append.mp h
    rw [List.getLast?_concat, eq_comm, List.max?_eq_some_iff]
    refine ⟨by simp, ?_⟩
    intro b hb
    rcases List.mem_append.mp hb with hb | hb
    · exact Std.le_of_lt (hlast b hb k (List.mem_singleton_self k))
    · rw [List.mem_singleton.mp hb]
      exact Std.le_refl k

end Kind

/-! ## Going to flags and back -/

namespace ModifierFlags

theorem pairwise_kinds (fs : ModifierFlags) : fs.kinds.Pairwise (· < ·) :=
  Kind.pairwise_all.filter _

theorem mem_kinds_ofKinds {k : Kind} {ks : List Kind} : k ∈ (ofKinds ks).kinds ↔ k ∈ ks := by
  rw [mem_kinds_iff_position, position_mem_ofKinds]

theorem kinds_ofKinds_eq_sortedUnique (ks : List Kind) :
    (ofKinds ks).kinds = Kind.sortedUnique ks := by
  -- no induction on `ks`: both lists are strictly increasing and have its members
  refine (pairwise_kinds _).eq_of_mem_iff (Kind.pairwise_sortedUnique ks) ?_
  intro k
  rw [mem_kinds_ofKinds, Kind.mem_sortedUnique]

/-- Going to flags and back sorts a list of kinds and drops what repeats. Sorting goes by the order
of kinds or by that of keywords alike, and neither loses nor invents an item. -/
theorem kinds_ofKinds_sorts (ks : List Kind) :
    (ofKinds ks).kinds = Kind.sortedUnique ks ∧
    (ofKinds ks).kinds.Pairwise (· < ·) ∧
    (∀ k, k ∈ (ofKinds ks).kinds ↔ k ∈ ks) ∧
    ((ofKinds ks).kinds.head? = ks.min? ∧
      (∀ k, ks.min? = some k ↔ k ∈ ks ∧ ∀ b ∈ ks, k ≤ b) ∧
      ((ofKinds ks).kinds.head? = none ↔ ks = [])) ∧
    ((ofKinds ks).kinds.getLast? = ks.max? ∧
      (∀ k, ks.max? = some k ↔ k ∈ ks ∧ ∀ b ∈ ks, b ≤ k) ∧
      ((ofKinds ks).kinds.getLast? = none ↔ ks = [])) ∧
    Kind.sorted ks = ks.mergeSort (fun a b => decide (a.keyword ≤ b.keyword)) ∧
    (Kind.sorted ks).Pairwise (· ≤ ·) ∧
    (Kind.sorted ks).Perm ks := by
  have members : ∀ k, k ∈ (ofKinds ks).kinds ↔ k ∈ ks := fun k => mem_kinds_ofKinds
  have hhead : (ofKinds ks).kinds.head? = ks.min? := by
    rw [Kind.head?_eq_min? (pairwise_kinds _), Kind.min?_congr members]
  have hlast : (ofKinds ks).kinds.getLast? = ks.max? := by
    rw [Kind.getLast?_eq_max? (pairwise_kinds _), Kind.max?_congr members]
  refine ⟨kinds_ofKinds_eq_sortedUnique ks, pairwise_kinds _, members, ⟨hhead, ?_, ?_⟩,
    ⟨hlast, ?_, ?_⟩, Kind.sorted_eq_mergeSort_keyword ks, Kind.pairwise_sorted ks,
    Kind.sorted_perm ks⟩
  · intro k
    exact List.min?_eq_some_iff
  · rw [hhead, List.min?_eq_none_iff]
  · intro k
    exact List.max?_eq_some_iff
  · rw [hlast, List.max?_eq_none_iff]

/-- The bits stand in another order: that of `public` is the lowest. -/
example : (ofKinds [.static, .public, .abstract, .static]).kinds = [.abstract, .public, .static] := by
  decide

end ModifierFlags
end CheckerTags

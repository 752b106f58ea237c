import Mathlib.Data.List.Forall2

/-!
# CheckerTags.Proofs.Traversal

Lists that are read item by item, with a reader that can refuse an item. The traversal gives the
values of all items in their order, or the error of the first item that is refused
(`Traversal.FirstRefused`), and then nothing that stands behind that item counts.

* `Traversal.mapM_eq_ok`, `Traversal.mapM_eq_error`: the two outcomes.
* `Traversal.exists_firstRefused`: which lists are refused.
-/

namespace CheckerTags
namespace Traversal

variable {α β ε : Type} {read : α → Except ε β}

/-- `e` is the error of the first item of a list that is refused. -/
def FirstRefused (read : α → Except ε β) (items : List α) (e : ε) : Prop :=
  ∃ before item after, items = before ++ item :: after ∧
    (∀ x ∈ before, ∃ y, read x = .ok y) ∧ read item = .error e

theorem firstRefused_cons_of_ok {x : α} {y : β} (hx : read x = .ok y) {items : List α} {e : ε} :
    FirstRefused read (x :: items) e ↔ FirstRefused read items e := by
  constructor
  · rintro ⟨before, item, after, hitems, hbefore, hitem⟩
    cases before with
    | nil =>
      obtain ⟨rfl, _⟩ := List.cons.inj hitems
      rw [hx] at hitem
      cases hitem
    | cons z before =>
      obtain ⟨_, hrest⟩ := List.cons.inj hitems
      exact ⟨before, item, after, hrest, (List.forall_mem_cons.mp hbefore).2, hitem⟩
  · rintro ⟨before, item, after, rfl, hbefore, hitem⟩
    exact ⟨x :: before, item, after, rfl, List.forall_mem_cons.mpr ⟨⟨y, hx⟩, hbefore⟩, hitem⟩

theorem firstRefused_cons_of_error {x : α} {e' : ε} (hx : read x = .error e') {items : List α}
    {e : ε} : FirstRefused read (x :: items) e ↔ e' = e := by
  constructor
  · rintro ⟨before, item, after, hitems, hbefore, hitem⟩
    cases before with
    | nil =>
      obtain ⟨rfl, _⟩ := List.cons.inj hitems
      rw [hx] at hitem
      exact Except.error.inj hitem
    | cons z before =>
      obtain ⟨rfl, _⟩ := List.cons.inj hitems
      obtain ⟨y, hy⟩ := hbefore x List.mem_cons_self
      rw [hx] at hy
      cases hy
  · rintro rfl
    exact ⟨[], x, items, rfl, List.forall_mem_nil _, hx⟩

/-! ## Outcomes -/

theorem mapM_cons_of_error {x : α} {e : ε} (hx : read x = .error e) (items : List α) :
    (x :: items).mapM read = .error e := by
  rw [List.mapM_cons, hx]
  rfl

theorem mapM_cons_of_ok {x : α} {y : β} (hx : read x = .ok y) (items : List α) :
    (x :: items).mapM read = (items.mapM read).map (y :: ·) := by
  rw [List.mapM_cons, hx]
  cases items.mapM read <;> rfl

theorem mapM_eq_ok {items : List α} {values : List β} :
    items.mapM read = .ok values ↔ List.Forall₂ (fun x y => read x = .ok y) items values := by
  induction items generalizing values with
  | nil => cases values <;> simp [pure, Except.pure]
  | cons x items ih =>
    rw [List.forall₂_cons_left_iff]
    cases hx : read x with
    | error e =>
      rw [mapM_cons_of_error hx]
      simp
    | ok y =>
      rw [mapM_cons_of_ok hx]
      cases hitems : items.mapM read with
      | error e =>
        simp [Except.map, ← ih, hitems]
      | ok ys => simp [Except.map, ← ih, hitems, eq_comm]

theorem mapM_eq_error {items : List α} {e : ε} :
    items.mapM read = .error e ↔ FirstRefused read items e := by
  induction items with
  | nil => simp [pure, Except.pure, FirstRefused]
  | cons x items ih =>
    cases hx : read x with
    | error e' =>
      rw [mapM_cons_of_error hx, firstRefused_cons_of_error hx, Except.error.injEq]
    | ok y =>
      rw [mapM_cons_of_ok hx, firstRefused_cons_of_ok hx, ← ih]
      cases items.mapM read <;> simp [Except.map]

theorem exists_firstRefused {items : List α} :
    (∃ e, FirstRefused read items e) ↔ ∃ item ∈ items, ∃ e, read item = .error e := by
  constructor
  · rintro ⟨e, before, item, after, rfl, _, hitem⟩
    exact ⟨item, by simp, e, hitem⟩
  · intro h
    induction items with
    | nil => simp at h
    | cons x items ih =>
      cases hx : read x with
      | error e => exact ⟨e, (firstRefused_cons_of_error hx).mpr rfl⟩
      | ok y =>
        obtain ⟨item, hmem, e, hitem⟩ := h
        rcases List.mem_cons.mp hmem with rfl | hmem
        · rw [hx] at hitem
          cases hitem
        · obtain ⟨e', he'⟩ := ih ⟨item, hmem, e, hitem⟩
          exact ⟨e', (firstRefused_cons_of_ok hx).mpr he'⟩

end Traversal
end CheckerTags

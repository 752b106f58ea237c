import CheckerTags.Proofs.Action

/-!
# CheckerTags.Proofs.AbsentList

A declaration without a modifier list behaves like one whose list is empty. Nothing that is asked of
a declaration or done to it looks at more than the items of its list, and an absent list has none.
So declarations with the same items go through the same run, as far as replies, errors and flags
tell; their lists become one and the same as soon as a step sets the list.

* `Declaration.entry_congr`: one step on declarations with the same items.
* `Declaration.final_eq_of_settled`, `Declaration.final_eq_self`: what a run does to a list, and
  what it leaves alone.
-/

namespace CheckerTags

/-! ## Items -/

namespace Modifiers

variable {μ : Type} [HasKind μ]

theorem has_congr {ms ns : Modifiers μ} (h : ms.items = ns.items) (ks : List Kind) :
    ms.has ks = ns.has ks := by
  rw [has, has, scan_eq_through_items, scan_eq_through_items, h]

theorem flags_congr {ms ns : Modifiers μ} (h : ms.items = ns.items) : ms.flags = ns.flags := by
  rw [flags, flags, h]

omit [HasKind μ] in
theorem items_map_dropLast (ms : Modifiers μ) :
    Modifiers.items (ms.map List.dropLast) = ms.items.dropLast := by
  cases ms <;> rfl

end Modifiers

namespace Declaration

variable {d e : Declaration}

/-! ## One step -/

namespace Action

theorem reply_congr (h : d.modifiers.items = e.modifiers.items) (a : Action) :
    a.reply d = a.reply e := by
  cases a with
  | dropList => rfl
  | assign ks => rfl
  | push k => rfl
  | pop => rfl
  | has ks => exact congrArg some (Modifiers.has_congr h ks)
  | isFlagSet test =>
    have hflags : Declared.flags d = Declared.flags e := Modifiers.flags_congr h
    simp only [reply, Declared.isFlagSet, hflags]

theorem items_apply_congr (h : d.modifiers.items = e.modifiers.items) (a : Action) :
    (a.apply d).modifiers.items = (a.apply e).modifiers.items := by
  cases a with
  | dropList => rfl
  | assign ks => rfl
  | push k => simp only [apply, h]
  | pop => simp only [apply, Modifiers.items_map_dropLast, h]
  | has ks => exact h
  | isFlagSet test => exact h

/-- Actions after which there is a list, or none, whatever was there before. -/
def setsList : Action → Bool
  | .dropList => true
  | .assign _ => true
  | .push _ => true
  | .pop => false
  | .has _ => false
  | .isFlagSet _ => false

theorem apply_eq_of_setsList (h : d.modifiers.items = e.modifiers.items) {a : Action}
    (ha : a.setsList = true) : a.apply d = a.apply e := by
  cases a with
  | dropList => rfl
  | assign ks => rfl
  | push k => simp only [apply, h]
  | pop => cases ha
  | has ks => cases ha
  | isFlagSet test => cases ha

/-- All other actions leave a list without items as it is, and an absent one absent. -/
theorem apply_eq_self (hd : d.modifiers.items = []) {a : Action} (ha : a.setsList = false) :
    a.apply d = d := by
  cases a with
  | dropList => cases ha
  | assign ks => cases ha
  | push k => cases ha
  | pop =>
    obtain ⟨ms⟩ := d
    cases ms with
    | none => rfl
    | some items =>
      have hnil : items = [] := hd
      rw [hnil]
      rfl
  | has ks => rfl
  | isFlagSet test => rfl

end Action

/-- The edits that set the list, once their keywords are accepted. -/
def Step.setsList : Step → Bool
  | .dropList => true
  | .assign _ => true
  | .push _ => true
  | .pop => false
  | .ofFlags _ => true
  | .has _ => false
  | .isFlagSet _ => false

theorem Step.setsList_eq_of_read {s : Step} {a : Action} (h : s.read = .ok a) :
    s.setsList = a.setsList := by
  cases s <;> simp only [Step.read] at h <;> (try split at h) <;> cases h <;> rfl

/-- The declarations need not be equal, only have the same items; then they are told apart neither
by a step nor after it. -/
theorem entry_congr (h : d.modifiers.items = e.modifiers.items) (s : Step) :
    (Run.entry step d s).outcome = (Run.entry step e s).outcome ∧
      (Run.entry step d s).after.modifiers.items = (Run.entry step e s).after.modifiers.items := by
  cases hr : s.read with
  | error err =>
    rw [entry_of_read_error hr, entry_of_read_error hr]
    exact ⟨rfl, h⟩
  | ok a =>
    rw [entry_of_read_ok hr, entry_of_read_ok hr]
    exact ⟨congrArg Except.ok (a.reply_congr h), a.items_apply_congr h⟩

/-- Whether a step sets the list of `d` and succeeds. -/
def settles (d : Declaration) (s : Step) : Bool :=
  s.setsList && (Run.entry step d s).outcome.isOk

theorem after_eq_of_settles (h : d.modifiers.items = e.modifiers.items) {s : Step}
    (hs : settles d s = true) : (Run.entry step d s).after = (Run.entry step e s).after := by
  obtain ⟨hset, hok⟩ := Bool.and_eq_true_iff.mp hs
  cases hr : s.read with
  | error err =>
    rw [entry_of_read_error hr] at hok
    cases hok
  | ok a =>
    rw [entry_of_read_ok hr, entry_of_read_ok hr]
    rw [Step.setsList_eq_of_read hr] at hset
    exact Action.apply_eq_of_setsList h hset

theorem after_eq_self (hd : d.modifiers.items = []) {s : Step} (hs : settles d s = false) :
    (Run.entry step d s).after = d := by
  cases hr : s.read with
  | error err => rw [entry_of_read_error hr]
  | ok a =>
    rw [settles, entry_of_read_ok hr, Step.setsList_eq_of_read hr] at hs
    rw [entry_of_read_ok hr]
    exact Action.apply_eq_self hd (by simpa [Except.isOk, Except.toBool] using hs)

/-! ## Runs -/

/-- Whether one of the steps of a run from `d` sets the list and succeeds. -/
def settled (d : Declaration) (steps : List Step) : Bool :=
  (steps.zip (run d steps)).any fun p => p.1.setsList && p.2.outcome.isOk

theorem settled_cons (d : Declaration) (s : Step) (steps : List Step) :
    settled d (s :: steps) = (settles d s || settled (Run.entry step d s).after steps) := rfl

theorem run_congr (h : d.modifiers.items = e.modifiers.items) (steps : List Step) :
    ((run d steps).map fun x => (x.outcome, Declared.flags x.after)) =
      (run e steps).map fun x => (x.outcome, Declared.flags x.after) := by
  induction steps generalizing d e with
  | nil => rfl
  | cons s steps ih =>
    obtain ⟨houtcome, hitems⟩ := entry_congr h s
    have hflags : Declared.flags (Run.entry step d s).after =
        Declared.flags (Run.entry step e s).after := Modifiers.flags_congr hitems
    have hrest := ih hitems
    simp only [run, Run.entries, List.map_cons] at hrest ⊢
    rw [houtcome, hflags, hrest]

theorem settled_congr (h : d.modifiers.items = e.modifiers.items) (steps : List Step) :
    settled d steps = settled e steps := by
  induction steps generalizing d e with
  | nil => rfl
  | cons s steps ih =>
    obtain ⟨houtcome, hitems⟩ := entry_congr h s
    rw [settled_cons, settled_cons, ih hitems, settles, settles, houtcome]

theorem final_eq_of_settled (h : d.modifiers.items = e.modifiers.items) {steps : List Step}
    (hs : settled d steps = true) : final d steps = final e steps := by
  induction steps generalizing d e with
  | nil => cases hs
  | cons s steps ih =>
    rw [settled_cons, Bool.or_eq_true] at hs
    rcases hs with hs | hs
    · -- both runs go on from one declaration
      show final (Run.entry step d s).after steps = final (Run.entry step e s).after steps
      rw [after_eq_of_settles h hs]
    · exact ih (entry_congr h s).2 hs

theorem final_eq_self (hd : d.modifiers.items = []) {steps : List Step}
    (hs : settled d steps = false) : final d steps = d := by
  -- `d` stays what it is, so the induction need not range over declarations
  induction steps with
  | nil => rfl
  | cons s steps ih =>
    rw [settled_cons, Bool.or_eq_false_iff] at hs
    obtain ⟨hfirst, hrest⟩ := hs
    rw [after_eq_self hd hfirst] at hrest
    show final (Run.entry step d s).after steps = d
    rw [after_eq_self hd hfirst]
    exact ih hrest

/-- From an absent list and from an empty one a run gives the same replies, errors and flags. The
lists themselves are the same from the first step on that sets the list and succeeds. -/
theorem absent_like_empty (steps : List Step) :
    ((run ⟨none⟩ steps).map fun x => (x.outcome, Declared.flags x.after)) =
      ((run ⟨some []⟩ steps).map fun x => (x.outcome, Declared.flags x.after)) ∧
    ∀ i x y, (run ⟨none⟩ steps)[i]? = some x → (run ⟨some []⟩ steps)[i]? = some y →
      if settled ⟨none⟩ (steps.take (i + 1)) then x.after = y.after
      else x.after = ⟨none⟩ ∧ y.after = ⟨some []⟩ := by
  have hitems : Modifiers.items (none : Modifiers Kind) = Modifiers.items (some []) := rfl
  constructor
  · exact run_congr hitems steps
  · intro i x y hx hy
    rw [Run.after_eq_final step hx, Run.after_eq_final step hy]
    split
    · next hs => exact final_eq_of_settled hitems hs
    · next hs =>
      have hnone := Bool.eq_false_iff.mpr hs
      have hempty := hnone
      rw [settled_congr hitems] at hempty
      exact ⟨final_eq_self rfl hnone, final_eq_self rfl hempty⟩

/-- A refused keyword and a `pop` settle nothing; an accepted keyword does, even if a second `pop`
takes it away again. -/
theorem absent_like_empty_push_pop :
    let steps : List Step := [.pop, .push "Public", .has ["public"], .push "public", .pop]
    let x : Entry Declaration UnknownKeyword (Option Bool) := ⟨.ok (some false), ⟨none⟩⟩
    let y : Entry Declaration UnknownKeyword (Option Bool) := ⟨.ok (some false), ⟨some []⟩⟩
    let z : Entry Declaration UnknownKeyword (Option Bool) := ⟨.ok none, ⟨some []⟩⟩
    ((run ⟨none⟩ steps)[2]? = some x ∧ (run ⟨some []⟩ steps)[2]? = some y ∧
      if settled ⟨none⟩ (steps.take 3) then x.after = y.after
      else x.after = ⟨none⟩ ∧ y.after = ⟨some []⟩) ∧
    ((run ⟨none⟩ steps)[4]? = some z ∧ (run ⟨some []⟩ steps)[4]? = some z ∧
      settled ⟨none⟩ (steps.take 5) = true) := by
  intro steps x y z
  have hx : (run ⟨none⟩ steps)[2]? = some x := by rfl
  have hy : (run ⟨some []⟩ steps)[2]? = some y := by rfl
  exact ⟨⟨hx, hy, (absent_like_empty steps).2 2 x y hx hy⟩, by rfl, by rfl, by rfl⟩

end Declaration
end CheckerTags

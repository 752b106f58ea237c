import CheckerTags.Proofs.AbsentList
import CheckerTags.Proofs.FlagTracking
import CheckerTags.Proofs.Keywords

/-!
# CheckerTags.Proofs.Nesting

The modifier list of a declaration as a stack. `push` and `pop` work at its end, so what was there at
first is out of reach for edits that take back no more than they have added, and when they have taken
back all of it, it stands alone again. The flags are made from the whole list each time: the bit of a
dropped modifier goes with it only if there is no other of its kind.

* `Declaration.OnTop`: the list at first, and how much has been added to it.
* `Declaration.OnTop.push`, `Declaration.OnTop.pop`: one edit.
* `Declaration.OnTop.final`: edits that take back no more than they have added.
* `Declaration.final_of_wellNested`: edits that take back all they have added.
* `Modifiers.flags_dropped`: what dropping the last modifier does to the flags.
-/

namespace CheckerTags

/-! ## The flags of the last modifier -/

namespace Modifiers

theorem flag_subset_concat (front : List Kind) (k : Kind) :
    k.flag ⊆ Modifiers.flags (some (front ++ [k])) := by
  rw [Kind.flag_subset, position_mem_flags, kinds_some]
  exact List.mem_concat_self

theorem flags_dropped (front : List Kind) (k : Kind) :
    Modifiers.flags (some front) =
      if k ∈ front then Modifiers.flags (some (front ++ [k]))
      else Modifiers.flags (some (front ++ [k])) \ k.flag := by
  have hconcat : Modifiers.flags (some (front ++ [k])) = Modifiers.flags (some front) ∪ k.flag :=
    flags_some_concat (some front) k
  have hmem : k.position ∈ Modifiers.flags (some front) ↔ k ∈ front := by
    rw [position_mem_flags, kinds_some]
  rw [hconcat]
  split
  · next h =>
    have hsub : k.flag ⊆ Modifiers.flags (some front) := Kind.flag_subset.mpr (hmem.mpr h)
    rw [Flags.union_eq_left.mpr hsub]
  · next h =>
    have hapart : Modifiers.flags (some front) ∩ k.flag = ∅ := by
      rw [Flags.inter_eq_empty]
      intro i hi hk
      rw [Kind.mem_flag.mp hk, hmem] at hi
      exact h hi
    rw [Flags.union_sdiff_cancel hapart]

end Modifiers

namespace Declaration

/-! ## Edits at the end of the list -/

theorem entry_push (d : Declaration) (k : Kind) :
    Run.entry step d (.push k.keyword) = ⟨.ok none, ⟨some (d.modifiers.items ++ [k])⟩⟩ := by
  have hread : Step.read (.push k.keyword) = .ok (.push k) := by
    rw [Step.read, Kind.parse_eq_ok.mpr rfl]
  exact entry_of_read_ok hread d

theorem entry_pop (d : Declaration) :
    Run.entry step d .pop = ⟨.ok none, ⟨d.modifiers.map List.dropLast⟩⟩ := rfl

/-- There is a list, and its items are those of `base` and `n` more behind them. -/
def OnTop (base : List Kind) (n : Nat) (d : Declaration) : Prop :=
  ∃ above, d.modifiers = some (base ++ above) ∧ above.length = n

variable {base : List Kind} {n : Nat} {d : Declaration}

theorem OnTop.push (h : OnTop base n d) (k : Kind) :
    OnTop base (n + 1) (Run.entry step d (.push k.keyword)).after := by
  obtain ⟨above, hd, hlength⟩ := h
  refine ⟨above ++ [k], ?_, ?_⟩
  · rw [entry_push, hd, ← List.append_assoc]
    rfl
  · rw [List.length_append, hlength, List.length_singleton]

theorem OnTop.pop (h : OnTop base (n + 1) d) : OnTop base n (Run.entry step d .pop).after := by
  obtain ⟨above, hd, hlength⟩ := h
  have hne : above ≠ [] := by
    rintro rfl
    cases hlength
  refine ⟨above.dropLast, ?_, ?_⟩
  · rw [entry_pop, hd, Option.map_some, List.dropLast_append_of_ne_nil hne]
  · rw [List.length_dropLast, hlength, Nat.add_sub_cancel]

/-! ## Counting -/

/-- A push of a keyword, or a pop. -/
def Step.IsEdit (s : Step) : Prop := s = .pop ∨ ∃ k : Kind, s = .push k.keyword

def Step.isPush : Step → Bool
  | .push _ => true
  | _ => false

def pushes (steps : List Step) : Nat := steps.countP Step.isPush

def pops (steps : List Step) : Nat := steps.count .pop

theorem pushes_pop_cons (steps : List Step) : pushes (.pop :: steps) = pushes steps :=
  List.countP_cons_of_neg Bool.false_ne_true

theorem pushes_push_cons (text : String) (steps : List Step) :
    pushes (.push text :: steps) = pushes steps + 1 :=
  List.countP_cons_of_pos rfl

theorem pops_pop_cons (steps : List Step) : pops (.pop :: steps) = pops steps + 1 :=
  List.count_cons_self

theorem pops_push_cons (text : String) (steps : List Step) :
    pops (.push text :: steps) = pops steps :=
  List.count_cons_of_ne (by simp)

/-- Pushes and pops in which each pop takes back an earlier push and each push is taken back. -/
structure WellNested (steps : List Step) : Prop where
  edits : ∀ s ∈ steps, s.IsEdit
  /-- At no point have there been more pops than pushes. -/
  matched : ∀ i ≤ steps.length, pops (steps.take i) ≤ pushes (steps.take i)
  /-- At the end there have been as many. -/
  settled : pops steps = pushes steps

/-! ## Runs -/

/-- With `n` modifiers on top there may be `n` pops more than pushes at any point. -/
theorem OnTop.final {steps : List Step} (hedits : ∀ s ∈ steps, s.IsEdit)
    (hmatched : ∀ i ≤ steps.length, pops (steps.take i) ≤ n + pushes (steps.take i))
    (h : OnTop base n d) :
    ∃ m, m + pops steps = n + pushes steps ∧ OnTop base m (Declaration.final d steps) := by
  induction steps generalizing n d with
  | nil => exact ⟨n, rfl, h⟩
  | cons s steps ih =>
    obtain ⟨hs, hsteps⟩ := List.forall_mem_cons.mp hedits
    have hlater : ∀ i ≤ steps.length,
        pops (s :: steps.take i) ≤ n + pushes (s :: steps.take i) :=
      fun i hi => hmatched (i + 1) (Nat.succ_le_succ hi)
    rcases hs with rfl | ⟨k, rfl⟩
    · simp only [pops_pop_cons, pushes_pop_cons] at hlater
      cases n with
      | zero =>
        -- with nothing on top, this pop would be one more than the pushes before it
        exact absurd (hlater 0 (Nat.zero_le _)) (Nat.not_succ_le_zero 0)
      | succ n =>
        obtain ⟨m, hm, hfinal⟩ := ih hsteps (fun i hi => by have := hlater i hi; omega) h.pop
        exact ⟨m, by rw [pops_pop_cons, pushes_pop_cons]; omega, hfinal⟩
    · simp only [pops_push_cons, pushes_push_cons] at hlater
      obtain ⟨m, hm, hfinal⟩ := ih hsteps (fun i hi => by have := hlater i hi; omega) (h.push k)
      exact ⟨m, by rw [pops_push_cons, pushes_push_cons]; omega, hfinal⟩

theorem final_of_present {steps : List Step} (h : WellNested steps) (items : List Kind) :
    final ⟨some items⟩ steps = ⟨some items⟩ := by
  have hstart : OnTop items 0 ⟨some items⟩ := ⟨[], by rw [List.append_nil], rfl⟩
  have hmatched : ∀ i ≤ steps.length, pops (steps.take i) ≤ 0 + pushes (steps.take i) := by
    intro i hi
    rw [Nat.zero_add]
    exact h.matched i hi
  obtain ⟨m, hm, above, hfinal, hlength⟩ := hstart.final h.edits hmatched
  have hnil : above = [] := by
    have hsettled := h.settled
    exact List.eq_nil_of_length_eq_zero (by omega)
  rw [hnil, List.append_nil] at hfinal
  exact congrArg Declaration.mk hfinal

/-- The first of the edits makes the list if there is none. -/
theorem final_of_wellNested {steps : List Step} (h : WellNested steps) (hne : steps ≠ [])
    (d : Declaration) : final d steps = ⟨some d.modifiers.items⟩ := by
  rw [← final_of_present h]
  obtain ⟨s, rest, rfl⟩ := List.exists_cons_of_ne_nil hne
  rcases h.edits s List.mem_cons_self with rfl | ⟨k, rfl⟩
  · exact absurd (h.matched 1 (Nat.succ_le_succ (Nat.zero_le _))) (Nat.not_succ_le_zero 0)
  · show final (Run.entry step d (.push k.keyword)).after rest =
      final (Run.entry step ⟨some d.modifiers.items⟩ (.push k.keyword)).after rest
    rw [entry_push, entry_push]
    rfl

theorem items_final_of_wellNested {steps : List Step} (h : WellNested steps) (d : Declaration) :
    (final d steps).modifiers.items = d.modifiers.items := by
  by_cases hne : steps = []
  · rw [hne]
    rfl
  · rw [final_of_wellNested h hne]
    rfl

/-- Well-nested pushes and pops undo each other, but for an absent list, which becomes empty.
Dropping the last modifier takes its bit out of the flags unless another one has its kind; adding
one adds its bit. -/
theorem edits_like_stack :
    (∀ (d : Declaration) (steps : List Step), WellNested steps →
      (∀ items, d.modifiers = some items → (final d steps).modifiers = some items) ∧
      (d.modifiers = none → steps ≠ [] → (final d steps).modifiers = some []) ∧
      Declared.flags (final d steps) = Declared.flags d ∧
      ∀ s, (Run.entry step (final d steps) s).outcome = (Run.entry step d s).outcome) ∧
    (∀ (front : List Kind) (k : Kind),
      let d : Declaration := ⟨some (front ++ [k])⟩
      let dropped : Declaration := ⟨some front⟩
      step d .pop = .ok (none, dropped) ∧ k.flag ⊆ Declared.flags d ∧
      Declared.flags dropped =
        if k ∈ front then Declared.flags d else Declared.flags d \ k.flag) ∧
    (∀ (d : Declaration) (k : Kind), ∃ pushed, step d (.push k.keyword) = .ok (none, pushed) ∧
      Declared.flags pushed = Declared.flags d ∪ k.flag) := by
  refine ⟨?_, ?_, ?_⟩
  · intro d steps h
    have hitems := items_final_of_wellNested h d
    refine ⟨?_, ?_, Modifiers.flags_congr hitems, fun s => (entry_congr hitems s).1⟩
    · intro items hd
      obtain ⟨_⟩ := d
      cases hd
      rw [final_of_present h]
    · intro hd hne
      rw [final_of_wellNested h hne, hd]
      rfl
  · intro front k d dropped
    refine ⟨?_, Modifiers.flag_subset_concat front k, Modifiers.flags_dropped front k⟩
    simp only [step, d, Option.map_some, List.dropLast_concat, dropped]
  · intro d k
    refine ⟨⟨some (d.modifiers.items ++ [k])⟩, ?_, Modifiers.flags_some_concat d.modifiers k⟩
    rw [step, Kind.parse_eq_ok.mpr rfl]

/-- Two pushes inside another, the second of its own kind; then one that stands alone. -/
theorem edits_like_stack_absent :
    let steps : List Step :=
      [.push "static", .push "public", .pop, .push "static", .pop, .pop, .push "in", .pop]
    WellNested steps ∧ (final ⟨none⟩ steps).modifiers = some [] ∧
    (final ⟨some [.static]⟩ steps).modifiers = some [.static] := by
  intro steps
  have hedits : ∀ s ∈ steps, s.IsEdit := by
    simp only [steps, List.forall_mem_cons]
    exact ⟨.inr ⟨.static, rfl⟩, .inr ⟨.public, rfl⟩, .inl rfl, .inr ⟨.static, rfl⟩, .inl rfl,
      .inl rfl, .inr ⟨.in, rfl⟩, .inl rfl, List.forall_mem_nil _⟩
  have hnested : WellNested steps := ⟨hedits, by decide, by decide⟩
  have hne : steps ≠ [] := by simp [steps]
  obtain ⟨hstack, _⟩ := edits_like_stack
  obtain ⟨_, habsent, _⟩ := hstack ⟨none⟩ steps hnested
  obtain ⟨hpresent, _⟩ := hstack ⟨some [.static]⟩ steps hnested
  exact ⟨hnested, habsent rfl hne, hpresent _ rfl⟩

end Declaration
end CheckerTags

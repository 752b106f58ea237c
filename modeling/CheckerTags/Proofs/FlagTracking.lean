import CheckerTags.Declaration.Step
import CheckerTags.Flags.Step
import CheckerTags.Proofs.Action
import CheckerTags.Proofs.ScanMask
import CheckerTags.Proofs.Simulation

/-!
# CheckerTags.Proofs.FlagTracking

The flags of a declaration, followed without its list. Every step but `pop` does to the flags what
can be done to them alone (`Step.onFlags?`), and asks what they can answer; a refused step does
nothing. So a run on a declaration is seen, through its flags, as a run on a set of flags. After
`pop` the flags depend on whether the dropped modifier stands elsewhere in the list, which they do
not tell.

* `Declaration.tracked`: one step.
-/

namespace CheckerTags

/-! ## The flags of a list -/

theorem Modifiers.flags_eq_unionAll (ms : Modifiers Kind) :
    ms.flags = Flags.unionAll (ms.items.map Kind.flag) := by
  rw [Modifiers.flags, Flags.unionAll, List.foldl_map]
  rfl

theorem Modifiers.flags_some_concat (ms : Modifiers Kind) (k : Kind) :
    Modifiers.flags (some (ms.items ++ [k])) = ms.flags ∪ k.flag := by
  simp only [Modifiers.flags, Modifiers.items, Option.getD_some, List.foldl_append, List.foldl_cons,
    List.foldl_nil]
  rfl

/-- The truth value of a reply, if it is one. -/
def Flags.Reply.truth? {v : Vocab} : Flags.Reply v → Option Bool
  | .done => none
  | .truth b => some b
  | .constant _ => none

namespace Declaration

/-! ## One step -/

/-- What a step does to the flags, as a step on them. A step whose keywords are refused does nothing
to them; for `pop` there is no such step. -/
def Step.onFlags? : Step → Option (Flags.Step .modifier)
  | .dropList => some .clear
  | .assign keywords =>
    match Kind.parseAll keywords with
    | .ok ks => some (.collect (ks.map Kind.flag))
    | .error _ => none
  | .push keyword =>
    match Kind.parse keyword with
    | .ok k => some (.insert k.flag)
    | .error _ => none
  | .pop => none
  | .ofFlags fs => some (.collect [fs ∩ ModifierFlags.spelled])
  | .has keywords =>
    match Kind.parseAll keywords with
    | .ok ks => some (.intersects (ModifierFlags.ofKinds ks))
    | .error _ => none
  | .isFlagSet test => some (.intersects test)

/-- A step whose success, reply and flags are those of its image. -/
def Tracked (s : Step) : Prop :=
  Run.Simulated step Flags.step Declared.flags Step.onFlags? (fun e => e.outcome.isOk)
    Except.toOption (fun outcome => outcome.toOption.map Flags.Reply.truth?) s

theorem Tracked.of_refused {s : Step} {e : UnknownKeyword} (hr : s.read = .error e)
    (hi : s.onFlags? = none) : Tracked s := by
  refine .of_eq_none hi fun d => ?_
  rw [entry_of_read_error hr]
  exact ⟨rfl, rfl⟩

theorem Tracked.of_action {s : Step} {a : Action} {m : Flags.Step .modifier} (hr : s.read = .ok a)
    (hi : s.onFlags? = some m)
    (h : ∀ d : Declaration, ∃ reply,
      Flags.step (Declared.flags d) m = .ok (reply, Declared.flags (a.apply d)) ∧
        a.reply d = reply.truth?) : Tracked s := by
  refine .of_eq_some hi fun d => ?_
  obtain ⟨reply, hstep, hreply⟩ := h d
  rw [entry_of_read_ok hr, Run.entry, hstep, hreply]
  exact ⟨rfl, rfl, rfl⟩

theorem tracked {s : Step} (hs : s ≠ .pop) : Tracked s := by
  cases s with
  | dropList => exact .of_action rfl rfl fun d => ⟨.done, rfl, rfl⟩
  | assign keywords =>
    cases hk : Kind.parseAll keywords with
    | error e => exact .of_refused (by rw [Step.read, hk]) (by rw [Step.onFlags?, hk])
    | ok ks =>
      refine .of_action (a := .assign ks) (by rw [Step.read, hk]) (by rw [Step.onFlags?, hk]) ?_
      intro d
      have hflags : Declared.flags ((Action.assign ks).apply d) =
          Flags.unionAll (ks.map Kind.flag) := Modifiers.flags_eq_unionAll (some ks)
      exact ⟨.done, by rw [hflags]; rfl, rfl⟩
  | push keyword =>
    cases hk : Kind.parse keyword with
    | error e => exact .of_refused (by rw [Step.read, hk]) (by rw [Step.onFlags?, hk])
    | ok k =>
      refine .of_action (a := .push k) (by rw [Step.read, hk]) (by rw [Step.onFlags?, hk]) ?_
      intro d
      have hflags : Declared.flags ((Action.push k).apply d) = Declared.flags d ∪ k.flag :=
        Modifiers.flags_some_concat d.modifiers k
      exact ⟨.done, by rw [hflags]; rfl, rfl⟩
  | pop => exact absurd rfl hs
  | ofFlags fs =>
    refine .of_action rfl rfl fun d => ?_
    have hflags : Declared.flags ((Action.assign fs.kinds).apply d) =
        Flags.unionAll [fs ∩ ModifierFlags.spelled] :=
      calc Declared.flags ((Action.assign fs.kinds).apply d)
        _ = ModifierFlags.ofKinds fs.kinds := rfl
        _ = fs ∩ ModifierFlags.spelled := ModifierFlags.ofKinds_kinds fs
        _ = Flags.unionAll [fs ∩ ModifierFlags.spelled] := (Flags.unionAll_singleton _).symm
    exact ⟨.done, by rw [hflags]; rfl, rfl⟩
  | has keywords =>
    cases hk : Kind.parseAll keywords with
    | error e => exact .of_refused (by rw [Step.read, hk]) (by rw [Step.onFlags?, hk])
    | ok ks =>
      refine .of_action (a := .has ks) (by rw [Step.read, hk]) (by rw [Step.onFlags?, hk]) ?_
      intro d
      have hmask : Declared.has d ks = (Declared.flags d).intersects (ModifierFlags.ofKinds ks) :=
        Modifiers.has_eq_mask d.modifiers ks
      exact ⟨.truth _, rfl, congrArg some hmask⟩
  | isFlagSet test => exact .of_action rfl rfl fun d => ⟨.truth _, rfl, rfl⟩

/-! ## Runs -/

/-- A run without `pop` on a declaration without a list is, seen through its flags, the run of the
steps' images on the empty set; the steps that succeed have the replies of their images. -/
theorem flags_follow_images (steps : List Step) (hpop : Step.pop ∉ steps) :
    (∀ i x, (run ⟨none⟩ steps)[i]? = some x →
      Declared.flags x.after =
        Flags.final (∅ : ModifierFlags) ((steps.take (i + 1)).filterMap Step.onFlags?)) ∧
    (((run ⟨none⟩ steps).filter fun x => x.outcome.isOk).map fun x =>
        (x.outcome.toOption, Declared.flags x.after)) =
      (Flags.run (∅ : ModifierFlags) (steps.filterMap Step.onFlags?)).map fun y =>
        (y.outcome.toOption.map Flags.Reply.truth?, y.after) := by
  have htracked : ∀ s ∈ steps, Tracked s := by
    intro s hs
    apply tracked
    rintro rfl
    exact hpop hs
  have hempty : Declared.flags (⟨none⟩ : Declaration) = ∅ := rfl
  constructor
  · intro i x hx
    rw [Run.after_eq_final step hx, ← hempty]
    exact Run.abs_final (fun s hs => htracked s (List.mem_of_mem_take hs)) ⟨none⟩
  · rw [← hempty]
    exact Run.shown_entries htracked ⟨none⟩

/-- A refused keyword has no image, and a set of flags comes in without the bits that no keyword
sets. -/
theorem flags_follow_images_unspelled_bits :
    let steps : List Step := [.push "abstract", .push "Static", .ofFlags ⟨0x80018021⟩,
      .has ["in", "public"], .isFlagSet ⟨0x80018000⟩]
    let x : Entry Declaration UnknownKeyword (Option Bool) := ⟨.ok none, ⟨some [.export, .public]⟩⟩
    Step.pop ∉ steps ∧ (run ⟨none⟩ steps)[2]? = some x ∧
    Declared.flags x.after =
      Flags.final (∅ : ModifierFlags) ((steps.take 3).filterMap Step.onFlags?) ∧
    (((run ⟨none⟩ steps).filter fun x => x.outcome.isOk).map fun x =>
        (x.outcome.toOption, Declared.flags x.after)) =
      (Flags.run (∅ : ModifierFlags) (steps.filterMap Step.onFlags?)).map fun y =>
        (y.outcome.toOption.map Flags.Reply.truth?, y.after) := by
  intro steps x
  have hpop : Step.pop ∉ steps := by decide
  have hx : (run ⟨none⟩ steps)[2]? = some x := by rfl
  obtain ⟨hflags, hreplies⟩ := flags_follow_images steps hpop
  exact ⟨hpop, hx, hflags 2 x hx, hreplies⟩

end Declaration
end CheckerTags

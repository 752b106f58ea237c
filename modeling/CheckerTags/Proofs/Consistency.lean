import CheckerTags.Proofs.FlagTracking
import CheckerTags.Proofs.Keywords
import CheckerTags.Proofs.KindSets

/-!
# CheckerTags.Proofs.Consistency

What the flags of a declaration have to do with its list, at any point of a run
(`Declaration.Consistent`), and what a failing step does. The flags are made from the list whenever
they are asked for, so no order of steps brings them out of step with it; and as they are made from
keywords, the bits that no keyword sets are never among them. A step fails before it acts, with the
first of its texts that is no keyword.

* `Declaration.consistent`: every declaration is consistent.
* `Declaration.isFlagSet_eq_false`: what no declaration has.
* `Declaration.Step.read_eq_error`: which steps fail, and how.
-/

namespace CheckerTags

/-! ## Bits that no keyword sets -/

theorem ModifierFlags.not_mem_spelled {test : ModifierFlags} {i : Nat} (hi : i ∈ test)
    (h : test ⊆ decorator ∪ deprecated ∪ test.unknown) : ¬ i ∈ spelled := by
  intro hspelled
  obtain ⟨k, rfl⟩ := mem_spelled.mp hspelled
  have hlt := k.position_lt_decorator
  rcases Flags.mem_union.mp (h _ hi) with hi | hi
  · rcases Flags.mem_union.mp hi with hi | hi
    · have := (Flags.mem_bit.mp hi).1
      omega
    · have := (Flags.mem_bit.mp hi).1
      omega
  · exact (Flags.mem_unknown.mp hi).2 (spelled_subset_known _ hspelled)

namespace Declaration

/-! ## Reading the keywords of a step -/

/-- The texts of a step that have to be keywords. -/
def Step.keywords : Step → List String
  | .assign keywords => keywords
  | .push keyword => [keyword]
  | .has keywords => keywords
  | _ => []

theorem Step.read_eq_error {s : Step} {e : UnknownKeyword} :
    s.read = .error e ↔ Kind.FirstUnknown s.keywords e.keyword := by
  rw [← Kind.parseAll_eq_error]
  cases s with
  | assign keywords =>
    simp only [read, Step.keywords]
    cases Kind.parseAll keywords <;> simp
  | push keyword =>
    simp only [read, Step.keywords, Kind.parseAll]
    cases Kind.parse keyword <;> simp
  | has keywords =>
    simp only [read, Step.keywords]
    cases Kind.parseAll keywords <;> simp
  | _ => simp [read, Step.keywords, Kind.parseAll]

theorem Step.keywords_of_read_ok {s : Step} {a : Action} (h : s.read = .ok a) :
    ∀ text ∈ s.keywords, ∃ k : Kind, text = k.keyword := by
  intro text htext
  by_contra hnone
  obtain ⟨first, hfirst⟩ := Kind.exists_firstUnknown.mpr ⟨text, htext, not_exists.mp hnone⟩
  have herror : s.read = .error ⟨first⟩ := Step.read_eq_error.mpr hfirst
  rw [herror] at h
  cases h

/-! ## Flags and list -/

/-- The flags of a declaration tell of its list what flags can tell. -/
structure Consistent (d : Declaration) : Prop where
  flags_eq : Declared.flags d = Flags.unionAll (d.modifiers.items.map Kind.flag)
  spelled : Declared.flags d ⊆ ModifierFlags.spelled
  kinds : ∀ k, k ∈ (Declared.flags d).kinds ↔ k ∈ d.modifiers.items
  /-- Asking for the declaration's own kinds. -/
  own : ∃ found, step d (.has (d.modifiers.items.map Kind.keyword)) = .ok (some found, d) ∧
    (found = true ↔ ∃ k ks, d.modifiers = some (k :: ks))
  /-- Asking for bits that no keyword sets. -/
  unspelled : ∀ test : ModifierFlags,
    test ⊆ ModifierFlags.decorator ∪ ModifierFlags.deprecated ∪ test.unknown →
      step d (.isFlagSet test) = .ok (some false, d)

theorem flags_subset_spelled (d : Declaration) : Declared.flags d ⊆ ModifierFlags.spelled := by
  intro i hi
  obtain ⟨k, _, hk⟩ := Modifiers.mem_flags.mp hi
  exact ModifierFlags.mem_spelled.mpr ⟨k, Kind.mem_flag.mp hk⟩

theorem mem_kinds_flags (d : Declaration) (k : Kind) :
    k ∈ (Declared.flags d).kinds ↔ k ∈ d.modifiers.items := by
  have hflags : Declared.flags d = ModifierFlags.ofKinds d.modifiers.items := rfl
  rw [hflags, ModifierFlags.mem_kinds_ofKinds]

theorem has_own_iff (d : Declaration) :
    Declared.has d d.modifiers.items = true ↔ ∃ k ks, d.modifiers = some (k :: ks) := by
  have hhas : Declared.has d d.modifiers.items = true ↔ ∃ k, k ∈ d.modifiers.items := by
    refine Modifiers.has_iff.trans ?_
    exact exists_congr fun k => and_self_iff
  rw [hhas]
  obtain ⟨_ | _ | ⟨k, ks⟩⟩ := d <;> simp [Modifiers.items]

theorem isFlagSet_eq_false (d : Declaration) {test : ModifierFlags}
    (h : test ⊆ ModifierFlags.decorator ∪ ModifierFlags.deprecated ∪ test.unknown) :
    Declared.isFlagSet d test = false := by
  rw [Bool.eq_false_iff]
  intro hset
  obtain ⟨i, hflags, htest⟩ := Flags.intersects_iff.mp hset
  exact ModifierFlags.not_mem_spelled htest h (flags_subset_spelled d i hflags)

theorem consistent (d : Declaration) : Consistent d where
  flags_eq := Modifiers.flags_eq_unionAll d.modifiers
  spelled := flags_subset_spelled d
  kinds := mem_kinds_flags d
  own := ⟨_, by rw [step, Kind.parseAll_map_keyword], has_own_iff d⟩
  unspelled test h := by rw [step, isFlagSet_eq_false d h]

/-! ## Runs -/

/-- A step has keywords only and succeeds, or it fails with the first of its texts that is none. -/
theorem getElem?_run {steps : List Step} {i : Nat} {s : Step} (hs : steps[i]? = some s)
    (start : Declaration) :
    (∃ reply after, (run start steps)[i]? = some ⟨.ok reply, after⟩ ∧
        ∀ text ∈ s.keywords, ∃ k : Kind, text = k.keyword) ∨
      ∃ text, Kind.FirstUnknown s.keywords text ∧
        (run start steps)[i]? = some ⟨.error ⟨text⟩, final start (steps.take i)⟩ := by
  have hentry : (run start steps)[i]? =
      some (Run.entry step (final start (steps.take i)) s) := by
    rw [run, Run.getElem?_entries, hs]
    rfl
  cases hread : s.read with
  | ok a =>
    rw [entry_of_read_ok hread] at hentry
    exact .inl ⟨_, _, hentry, Step.keywords_of_read_ok hread⟩
  | error e =>
    rw [entry_of_read_error hread] at hentry
    exact .inr ⟨e.keyword, Step.read_eq_error.mp hread, hentry⟩

/-- At every point of a run the flags agree with the list. A step with a text that is no keyword
fails with the first such text, and the rest of the run is as without it. -/
theorem reachable_consistent (start : Declaration) (steps : List Step) :
    Consistent (final start steps) ∧
    (∀ (i : Nat) (s : Step), steps[i]? = some s →
      (∃ reply after, (run start steps)[i]? = some ⟨.ok reply, after⟩ ∧
          ∀ text ∈ s.keywords, ∃ k : Kind, text = k.keyword) ∨
        ∃ text, Kind.FirstUnknown s.keywords text ∧
          (run start steps)[i]? = some ⟨.error ⟨text⟩, final start (steps.take i)⟩) ∧
    run start (Run.succeeding step start steps) =
      ((run start steps).filter fun x => x.outcome.isOk) ∧
    final start (Run.succeeding step start steps) = final start steps := by
  refine ⟨consistent _, ?_, Run.entries_succeeding start steps, Run.final_succeeding start steps⟩
  intro i s hs
  exact getElem?_run hs start

/-- The second text of three is no keyword, and nothing is assigned. -/
theorem reachable_consistent_bad_assign :
    let keywords := ["static", "Public", "In"]
    let steps : List Step := [.ofFlags ⟨0x80018021⟩, .assign keywords, .push "in"]
    steps[1]? = some (.assign keywords) ∧
    (∃ text, Kind.FirstUnknown keywords text ∧
      (run ⟨none⟩ steps)[1]? = some ⟨.error ⟨text⟩, ⟨some [.export, .public]⟩⟩) ∧
    Run.succeeding step ⟨none⟩ steps = [.ofFlags ⟨0x80018021⟩, .push "in"] ∧
    final ⟨none⟩ [.ofFlags ⟨0x80018021⟩, .push "in"] = final ⟨none⟩ steps := by
  intro keywords steps
  have hs : steps[1]? = some (.assign keywords) := rfl
  have hsucceeding : Run.succeeding step ⟨none⟩ steps = [.ofFlags ⟨0x80018021⟩, .push "in"] := by
    rfl
  obtain ⟨_, hstep, _, hfinal⟩ := reachable_consistent ⟨none⟩ steps
  refine ⟨hs, ?_, hsucceeding, hsucceeding ▸ hfinal⟩
  rcases hstep 1 _ hs with ⟨reply, after, _, hkeywords⟩ | hfail
  · obtain ⟨k, hk⟩ := hkeywords "Public" (by simp [keywords, Step.keywords])
    exact absurd hk.symm (by cases k <;> decide)
  · exact hfail

end Declaration
end CheckerTags

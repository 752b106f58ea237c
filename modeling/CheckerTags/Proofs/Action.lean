import CheckerTags.Declaration.Step

/-!
# CheckerTags.Proofs.Action

A step on a declaration in two halves: its keywords are read, which does not look at the declaration
and is all that can fail, and then it acts, on kinds and no longer on texts.

* `Declaration.entry_of_read_ok`, `Declaration.entry_of_read_error`: the entry of a step, from its
  two halves.
-/

namespace CheckerTags
namespace Declaration

/-- A step whose keywords have been read. -/
inductive Action where
  | dropList
  | assign (ks : List Kind)
  | push (k : Kind)
  | pop
  | has (ks : List Kind)
  | isFlagSet (test : ModifierFlags)

/-- Reads the keywords of a step, up to the first text that is none. -/
def Step.read : Step → Except UnknownKeyword Action
  | .dropList => .ok .dropList
  | .assign keywords =>
    match Kind.parseAll keywords with
    | .ok ks => .ok (.assign ks)
    | .error e => .error e
  | .push keyword =>
    match Kind.parse keyword with
    | .ok k => .ok (.push k)
    | .error e => .error e
  | .pop => .ok .pop
  | .ofFlags fs => .ok (.assign fs.kinds)
  | .has keywords =>
    match Kind.parseAll keywords with
    | .ok ks => .ok (.has ks)
    | .error e => .error e
  | .isFlagSet test => .ok (.isFlagSet test)

namespace Action

def reply (d : Declaration) : Action → Option Bool
  | .dropList => none
  | .assign _ => none
  | .push _ => none
  | .pop => none
  | .has ks => some (Declared.has d ks)
  | .isFlagSet test => some (Declared.isFlagSet d test)

/-- The declaration after an action. -/
def apply (d : Declaration) : Action → Declaration
  | .dropList => ⟨none⟩
  | .assign ks => ⟨some ks⟩
  | .push k => ⟨some (d.modifiers.items ++ [k])⟩
  | .pop => ⟨d.modifiers.map List.dropLast⟩
  | .has _ => d
  | .isFlagSet _ => d

end Action

theorem step_eq_read (d : Declaration) (s : Step) :
    step d s = s.read.map fun a => (a.reply d, a.apply d) := by
  cases s with
  | dropList => rfl
  | assign keywords =>
    simp only [step, Step.read]
    cases Kind.parseAll keywords <;> rfl
  | push keyword =>
    simp only [step, Step.read]
    cases Kind.parse keyword <;> rfl
  | pop => rfl
  | ofFlags fs => rfl
  | has keywords =>
    simp only [step, Step.read]
    cases Kind.parseAll keywords <;> rfl
  | isFlagSet test => rfl

theorem entry_of_read_ok {s : Step} {a : Action} (h : s.read = .ok a) (d : Declaration) :
    Run.entry step d s = ⟨.ok (a.reply d), a.apply d⟩ := by
  rw [Run.entry, step_eq_read, h]
  rfl

theorem entry_of_read_error {s : Step} {e : UnknownKeyword} (h : s.read = .error e)
    (d : Declaration) : Run.entry step d s = ⟨.error e, d⟩ := by
  rw [Run.entry, step_eq_read, h]
  rfl

end Declaration
end CheckerTags

import CheckerTags.Declaration.Basic
import CheckerTags.Kind.Parse
import CheckerTags.Run

/-!
# CheckerTags.Declaration.Step

Editing and asking a declaration step by step. Kinds are given by keyword; a step with a text that
is no keyword fails with the first such text, and changes nothing.
-/

namespace CheckerTags
namespace Declaration

inductive Step where
  /-- Takes the modifier list away. -/
  | dropList
  | assign (keywords : List String)
  /-- Adds a modifier at the end, to a new list if there was none. -/
  | push (keyword : String)
  /-- Removes the last modifier, if there is one. -/
  | pop
  /-- Replaces the list by the kinds of a flag set; it is present even if there are none. -/
  | ofFlags (fs : ModifierFlags)
  | has (keywords : List String)
  | isFlagSet (test : ModifierFlags)
  deriving DecidableEq

/-- Takes one step. Only the two questions have a reply. -/
def step (d : Declaration) : Step → Except UnknownKeyword (Option Bool × Declaration)
  | .dropList => .ok (none, ⟨none⟩)
  | .assign keywords =>
    match Kind.parseAll keywords with
    | .ok ks => .ok (none, ⟨some ks⟩)
    | .error e => .error e
  | .push keyword =>
    match Kind.parse keyword with
    | .ok k => .ok (none, ⟨some (d.modifiers.items ++ [k])⟩)
    | .error e => .error e
  | .pop => .ok (none, ⟨d.modifiers.map List.dropLast⟩)
  | .ofFlags fs => .ok (none, ⟨some fs.kinds⟩)
  | .has keywords =>
    match Kind.parseAll keywords with
    | .ok ks => .ok (some (Declared.has d ks), d)
    | .error e => .error e
  | .isFlagSet test => .ok (some (Declared.isFlagSet d test), d)

def run (d : Declaration) (steps : List Step) :
    List (Entry Declaration UnknownKeyword (Option Bool)) :=
  Run.entries step d steps

def final (d : Declaration) (steps : List Step) : Declaration := Run.final step d steps

end Declaration
end CheckerTags

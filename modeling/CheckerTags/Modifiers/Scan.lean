import CheckerTags.Modifiers.Item

/-!
# CheckerTags.Modifiers.Scan

Looking through a modifier list for kinds. The scan goes from left to right and stops at the
first match; it counts the items that it looked at, the match among them.
-/

namespace CheckerTags

/-- The outcome of a scan: whether it found a match, and how many items it took for that. -/
structure Scan where
  found : Bool
  pulled : Nat
  deriving DecidableEq

namespace Scan

variable {μ : Type} [HasKind μ]

/-- The scan of `items` for any of `kinds`. -/
def through (kinds : List Kind) : List μ → Scan
  | [] => ⟨false, 0⟩
  | m :: rest =>
    if kinds.contains (HasKind.kind m) then ⟨true, 1⟩
    else
      let s := through kinds rest
      ⟨s.found, s.pulled + 1⟩

end Scan

namespace Modifiers

variable {μ : Type} [HasKind μ]

/-- The scan of a modifier list. Nothing is taken from an absent one. -/
def scan (ms : Modifiers μ) (kinds : List Kind) : Scan :=
  match ms with
  | none => ⟨false, 0⟩
  | some items => Scan.through kinds items

theorem scan_eq_through_items (ms : Modifiers μ) (kinds : List Kind) :
    ms.scan kinds = Scan.through kinds ms.items := by
  cases ms <;> rfl

/-- Whether a list has a modifier of any of the given kinds. An absent list behaves like an empty
one, and no kinds are never found. -/
def has (ms : Modifiers μ) (kinds : List Kind) : Bool := (ms.scan kinds).found

end Modifiers
end CheckerTags

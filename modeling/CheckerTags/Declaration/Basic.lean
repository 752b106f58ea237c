import CheckerTags.Modifiers.Mask
import CheckerTags.Modifiers.Scan

/-!
# CheckerTags.Declaration.Basic

Declarations that may carry a modifier list, asked by kinds (`Declared.has`, a scan of the list)
or by flags (`Declared.isFlagSet`, a mask of it).
-/

namespace CheckerTags

/-- Nodes that declare something and may carry modifiers. -/
class Declared (ν : Type) (μ : outParam Type) where
  modifiers : ν → Modifiers μ

namespace Declared

variable {ν μ : Type} [Declared ν μ] [HasKind μ]

/-- Whether a node has a modifier of any of the given kinds. -/
def has (node : ν) (kinds : List Kind) : Bool := (modifiers node).has kinds

/-- The flags of a node's modifiers. -/
def flags (node : ν) : ModifierFlags := (modifiers node).flags

/-- Whether any bit of `test` is set among a node's modifiers. -/
def isFlagSet (node : ν) (test : ModifierFlags) : Bool := (flags node).intersects test

end Declared

/-- A declaration, as far as its modifiers go. -/
structure Declaration where
  modifiers : Modifiers Kind
  deriving DecidableEq

instance : Declared Declaration Kind where
  modifiers := Declaration.modifiers

end CheckerTags

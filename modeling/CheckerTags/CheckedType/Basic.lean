import CheckerTags.Modifiers.Item
import CheckerTags.Vocab.Object
import CheckerTags.Vocab.Type

/-!
# CheckerTags.CheckedType.Basic

Types that a checker has produced, as far as their flags go. Only object types carry object
flags; for all others the default, the empty set, stands.

A query may be asked of a type itself, of a handle on it (`Handle`), or of a type about which
nothing else is known (`AnyType`).
-/

namespace CheckerTags

universe u

/-- A type produced by the checker. -/
class CheckedType (τ : Type u) where
  flags : τ → TypeFlags
  objectFlags : τ → ObjectFlags := fun _ => ∅

/-- A type without object flags of its own. -/
structure PlainType where
  flags : TypeFlags
  deriving DecidableEq

/-- A type with object flags. -/
structure ObjectType where
  flags : TypeFlags
  objectFlags : ObjectFlags
  deriving DecidableEq

instance : CheckedType PlainType where
  flags := PlainType.flags

instance : CheckedType ObjectType where
  flags := ObjectType.flags
  objectFlags := ObjectType.objectFlags

instance {τ : Type u} [CheckedType τ] : CheckedType (Handle τ) where
  flags h := CheckedType.flags h.target
  objectFlags h := CheckedType.objectFlags h.target

/-- A type of which only that is known: that it is one. -/
structure AnyType where
  {carrier : Type}
  [checked : CheckedType carrier]
  value : carrier

instance : CheckedType AnyType where
  flags t := t.checked.flags t.value
  objectFlags t := t.checked.objectFlags t.value

end CheckerTags

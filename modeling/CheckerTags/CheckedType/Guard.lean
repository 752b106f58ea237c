import CheckerTags.CheckedType.Basic

/-!
# CheckerTags.CheckedType.Guard

Classification of types. Every guard reads the flags alone, so its answer is settled once the
checker has produced the type: a type parameter stays one whatever it is instantiated with.

The guards for kinds of object types ask for `TypeFlags.object` first, as object flags mean
nothing without it. `isObjectFlagSet` does not.
-/

namespace CheckerTags
namespace CheckedType

universe u

variable {τ : Type u} [CheckedType τ]

/-- Whether any bit of `test` is among the flags of a type. -/
def isTypeFlagSet (t : τ) (test : TypeFlags) : Bool := (flags t).intersects test

/-- Whether any bit of `test` is among the object flags of a type. -/
def isObjectFlagSet (t : τ) (test : ObjectFlags) : Bool := (objectFlags t).intersects test

def isConditional (t : τ) : Bool := isTypeFlagSet t TypeFlags.conditional

def isEnum (t : τ) : Bool := isTypeFlagSet t TypeFlags.enum

def isIndex (t : τ) : Bool := isTypeFlagSet t TypeFlags.index

def isIndexedAccess (t : τ) : Bool := isTypeFlagSet t TypeFlags.indexedAccess

def isIntersection (t : τ) : Bool := isTypeFlagSet t TypeFlags.intersection

def isObject (t : τ) : Bool := isTypeFlagSet t TypeFlags.object

def isSubstitution (t : τ) : Bool := isTypeFlagSet t TypeFlags.substitution

def isTemplateLiteral (t : τ) : Bool := isTypeFlagSet t TypeFlags.templateLiteral

def isTypeParameter (t : τ) : Bool := isTypeFlagSet t TypeFlags.typeParameter

/-- Either half of the composite suffices. -/
def isUnionOrIntersection (t : τ) : Bool := isTypeFlagSet t TypeFlags.unionOrIntersection

def isUnion (t : τ) : Bool := isTypeFlagSet t TypeFlags.union

def isUniqueEsSymbol (t : τ) : Bool := isTypeFlagSet t TypeFlags.uniqueEsSymbol

/-- An instantiation of a generic type, such as `Array<string>`. -/
def isTypeReference (t : τ) : Bool := isObject t && isObjectFlagSet t ObjectFlags.reference

def isTuple (t : τ) : Bool := isObject t && isObjectFlagSet t ObjectFlags.tuple

def isClassOrInterface (t : τ) : Bool :=
  isObject t && isObjectFlagSet t ObjectFlags.classOrInterface

end CheckedType
end CheckerTags

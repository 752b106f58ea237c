import CheckerTags.Flags.Basic

/-!
# CheckerTags.Vocab.Object

Object flags: what kind of object type a type is. They mean something only on types with
`TypeFlags.object`.

The word is shared with the checker, so the position of each bit is fixed.
-/

namespace CheckerTags
namespace ObjectFlags

open Flags (bit)

def «class» : ObjectFlags := bit 0
def interface : ObjectFlags := bit 1
/-- An instantiation of a generic type, such as `Array<T>`. -/
def reference : ObjectFlags := bit 2
def tuple : ObjectFlags := bit 3
def anonymous : ObjectFlags := bit 4
def mapped : ObjectFlags := bit 5
def instantiated : ObjectFlags := bit 6
def objectLiteral : ObjectFlags := bit 7
def evolvingArray : ObjectFlags := bit 8
def objectLiteralPatternWithComputedProperties : ObjectFlags := bit 9
def reverseMapped : ObjectFlags := bit 10
def jsxAttributes : ObjectFlags := bit 11
def jsLiteral : ObjectFlags := bit 12
def freshLiteral : ObjectFlags := bit 13
def arrayLiteral : ObjectFlags := bit 14

/-- Declared by a class or an interface. -/
def classOrInterface : ObjectFlags := «class» ∪ interface

/-- The named bits, from the lowest up. -/
def singles : List (Constant .object) :=
  [⟨"CLASS", «class»⟩, ⟨"INTERFACE", interface⟩, ⟨"REFERENCE", reference⟩, ⟨"TUPLE", tuple⟩,
   ⟨"ANONYMOUS", anonymous⟩, ⟨"MAPPED", mapped⟩, ⟨"INSTANTIATED", instantiated⟩,
   ⟨"OBJECT_LITERAL", objectLiteral⟩, ⟨"EVOLVING_ARRAY", evolvingArray⟩,
   ⟨"OBJECT_LITERAL_PATTERN_WITH_COMPUTED_PROPERTIES", objectLiteralPatternWithComputedProperties⟩,
   ⟨"REVERSE_MAPPED", reverseMapped⟩, ⟨"JSX_ATTRIBUTES", jsxAttributes⟩,
   ⟨"JS_LITERAL", jsLiteral⟩, ⟨"FRESH_LITERAL", freshLiteral⟩, ⟨"ARRAY_LITERAL", arrayLiteral⟩]

/-- The named unions of several bits. -/
def composites : List (Constant .object) :=
  [⟨"CLASS_OR_INTERFACE", classOrInterface⟩]

end ObjectFlags
end CheckerTags

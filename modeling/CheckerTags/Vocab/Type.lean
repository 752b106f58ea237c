import CheckerTags.Flags.Basic

/-!
# CheckerTags.Vocab.Type

Type flags: what kind of type a checker has produced. The composites group kinds that are asked
for together.

The word is shared with the checker, so the position of each bit is fixed.
-/

namespace CheckerTags
namespace TypeFlags

open Flags (bit)

def any : TypeFlags := bit 0
def unknown : TypeFlags := bit 1
def string : TypeFlags := bit 2
def number : TypeFlags := bit 3
def boolean : TypeFlags := bit 4
def enum : TypeFlags := bit 5
def bigInt : TypeFlags := bit 6
def stringLiteral : TypeFlags := bit 7
def numberLiteral : TypeFlags := bit 8
def booleanLiteral : TypeFlags := bit 9
def enumLiteral : TypeFlags := bit 10
def bigIntLiteral : TypeFlags := bit 11
def esSymbol : TypeFlags := bit 12
/-- A `unique symbol`. -/
def uniqueEsSymbol : TypeFlags := bit 13
def void : TypeFlags := bit 14
def undefined : TypeFlags := bit 15
def null : TypeFlags := bit 16
def never : TypeFlags := bit 17
def typeParameter : TypeFlags := bit 18
def object : TypeFlags := bit 19
def union : TypeFlags := bit 20
def intersection : TypeFlags := bit 21
/-- A `keyof T`. -/
def index : TypeFlags := bit 22
/-- A `T[K]`. -/
def indexedAccess : TypeFlags := bit 23
def conditional : TypeFlags := bit 24
def substitution : TypeFlags := bit 25
/-- The type written `object`. -/
def nonPrimitive : TypeFlags := bit 26
def templateLiteral : TypeFlags := bit 27
def stringMapping : TypeFlags := bit 28

/-- A type of one literal of its kind. -/
def literal : TypeFlags := stringLiteral ∪ numberLiteral ∪ bigIntLiteral ∪ booleanLiteral

/-- Types with a single value, and enums; `void` is not among them. -/
def unit : TypeFlags := enum ∪ literal ∪ uniqueEsSymbol ∪ undefined ∪ null

/-- A type made of constituents. -/
def unionOrIntersection : TypeFlags := union ∪ intersection

/-- A type whose members can be asked for. -/
def structuredType : TypeFlags := object ∪ union ∪ intersection

/-- The named bits, from the lowest up. -/
def singles : List (Constant .type) :=
  [⟨"ANY", any⟩, ⟨"UNKNOWN", unknown⟩, ⟨"STRING", string⟩, ⟨"NUMBER", number⟩,
   ⟨"BOOLEAN", boolean⟩, ⟨"ENUM", enum⟩, ⟨"BIG_INT", bigInt⟩, ⟨"STRING_LITERAL", stringLiteral⟩,
   ⟨"NUMBER_LITERAL", numberLiteral⟩, ⟨"BOOLEAN_LITERAL", booleanLiteral⟩,
   ⟨"ENUM_LITERAL", enumLiteral⟩, ⟨"BIG_INT_LITERAL", bigIntLiteral⟩, ⟨"ES_SYMBOL", esSymbol⟩,
   ⟨"UNIQUE_ES_SYMBOL", uniqueEsSymbol⟩, ⟨"VOID", void⟩, ⟨"UNDEFINED", undefined⟩,
   ⟨"NULL", null⟩, ⟨"NEVER", never⟩, ⟨"TYPE_PARAMETER", typeParameter⟩, ⟨"OBJECT", object⟩,
   ⟨"UNION", union⟩, ⟨"INTERSECTION", intersection⟩, ⟨"INDEX", index⟩,
   ⟨"INDEXED_ACCESS", indexedAccess⟩, ⟨"CONDITIONAL", conditional⟩,
   ⟨"SUBSTITUTION", substitution⟩, ⟨"NON_PRIMITIVE", nonPrimitive⟩,
   ⟨"TEMPLATE_LITERAL", templateLiteral⟩, ⟨"STRING_MAPPING", stringMapping⟩]

/-- The named unions of several bits. -/
def composites : List (Constant .type) :=
  [⟨"LITERAL", literal⟩, ⟨"UNIT", unit⟩, ⟨"UNION_OR_INTERSECTION", unionOrIntersection⟩,
   ⟨"STRUCTURED_TYPE", structuredType⟩]

end TypeFlags
end CheckerTags

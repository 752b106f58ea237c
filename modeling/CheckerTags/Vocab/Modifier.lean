import CheckerTags.Flags.Basic

/-!
# CheckerTags.Vocab.Modifier

Modifier flags: one bit for each thing that can be combined over a declaration.

Fifteen of the seventeen bits are set by keywords (`Kind.flag`); `decorator` and `deprecated` are
set by other means. Four composites group the keywords.

The word is shared with the checker, so the position of each bit is fixed.
-/

namespace CheckerTags
namespace ModifierFlags

open Flags (bit)

def «public» : ModifierFlags := bit 0
def «private» : ModifierFlags := bit 1
def «protected» : ModifierFlags := bit 2
def readonly : ModifierFlags := bit 3
def override : ModifierFlags := bit 4
def «export» : ModifierFlags := bit 5
def abstract : ModifierFlags := bit 6
/-- Set by the keyword `declare`. -/
def ambient : ModifierFlags := bit 7
def static : ModifierFlags := bit 8
def accessor : ModifierFlags := bit 9
def async : ModifierFlags := bit 10
def default : ModifierFlags := bit 11
def const : ModifierFlags := bit 12
def «in» : ModifierFlags := bit 13
def out : ModifierFlags := bit 14
/-- Set by a decorator; no keyword sets it. -/
def decorator : ModifierFlags := bit 15
/-- Set by a documentation tag; no keyword sets it. -/
def deprecated : ModifierFlags := bit 16

/-- Who may access the declaration. -/
def accessibilityModifier : ModifierFlags := «public» ∪ «private» ∪ «protected»

/-- Attached to a parameter of a constructor, any of these makes it a property. -/
def parameterPropertyModifier : ModifierFlags := accessibilityModifier ∪ readonly ∪ override

/-- Access that is restricted. -/
def nonPublicAccessibilityModifier : ModifierFlags := «private» ∪ «protected»

/-- Modifiers that exist only in the typed language, and are erased with the types. -/
def typescriptModifier : ModifierFlags :=
  ambient ∪ «public» ∪ «private» ∪ «protected» ∪ readonly ∪ abstract ∪
    const ∪ override ∪ «in» ∪ out

/-- The named bits, from the lowest up. -/
def singles : List (Constant .modifier) :=
  [⟨"PUBLIC", «public»⟩, ⟨"PRIVATE", «private»⟩, ⟨"PROTECTED", «protected»⟩,
   ⟨"READONLY", readonly⟩, ⟨"OVERRIDE", override⟩, ⟨"EXPORT", «export»⟩, ⟨"ABSTRACT", abstract⟩,
   ⟨"AMBIENT", ambient⟩, ⟨"STATIC", static⟩, ⟨"ACCESSOR", accessor⟩, ⟨"ASYNC", async⟩,
   ⟨"DEFAULT", default⟩, ⟨"CONST", const⟩, ⟨"IN", «in»⟩, ⟨"OUT", out⟩, ⟨"DECORATOR", decorator⟩,
   ⟨"DEPRECATED", deprecated⟩]

/-- The named unions of several bits. -/
def composites : List (Constant .modifier) :=
  [⟨"ACCESSIBILITY_MODIFIER", accessibilityModifier⟩,
   ⟨"PARAMETER_PROPERTY_MODIFIER", parameterPropertyModifier⟩,
   ⟨"NON_PUBLIC_ACCESSIBILITY_MODIFIER", nonPublicAccessibilityModifier⟩,
   ⟨"TYPESCRIPT_MODIFIER", typescriptModifier⟩]

end ModifierFlags
end CheckerTags

import CheckerTags.Vocab.Modifier
import CheckerTags.Vocab.Type
import CheckerTags.Vocab.Object

/-!
# CheckerTags.Vocab.Constants

The table of each vocabulary: its single bits first, from the lowest up, then its composites.

* `Vocab.singles_flags`: the single bits are the low bits of the word, without a gap.
-/

namespace CheckerTags
namespace Vocab

/-- The name of a vocabulary's sets in their debug form. -/
def setName : Vocab → String
  | .modifier => "ModifierFlags"
  | .type => "TypeFlags"
  | .object => "ObjectFlags"

/-- The named bits, from the lowest up. -/
def singles : (v : Vocab) → List (Constant v)
  | .modifier => ModifierFlags.singles
  | .type => TypeFlags.singles
  | .object => ObjectFlags.singles

/-- The named unions of several bits. -/
def composites : (v : Vocab) → List (Constant v)
  | .modifier => ModifierFlags.composites
  | .type => TypeFlags.composites
  | .object => ObjectFlags.composites

/-- All named flags of a vocabulary, in the order in which they are tried. -/
def constants (v : Vocab) : List (Constant v) := v.singles ++ v.composites

theorem singles_flags (v : Vocab) :
    v.singles.map Constant.flags = (List.range v.singles.length).map Flags.bit := by
  cases v <;> rfl

end Vocab

/-- The flags of the constant called `name`; a composite counts like a single bit. -/
def Flags.ofName? {v : Vocab} (name : String) : Option (Flags v) :=
  Constant.find? v.constants name

end CheckerTags

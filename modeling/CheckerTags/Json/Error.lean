import CheckerTags.Flags.Text
import CheckerTags.Json.Value
import CheckerTags.Kind.Basic

/-!
# CheckerTags.Json.Error

Why a JSON value is not what a reader wants.
-/

namespace CheckerTags
namespace Json

inductive Expected where
  | stringOrMap
  | unit
  | sequence
  | flagText
  deriving DecidableEq

def Expected.describe : Expected → String
  | .stringOrMap => "string or map"
  | .unit => "unit"
  | .sequence => "a sequence"
  | .flagText => "a string value of `|` separated flags"

inductive ReadError where
  /-- The value has another type. -/
  | invalidType (found : Shape) (expected : Expected)
  /-- An object that has to have one entry has none or several. -/
  | notSingleEntry
  /-- The text spells no kind. -/
  | unknownVariant (name : String)
  /-- The text is not the text form of a set of flags. -/
  | badText (e : TextError)
  deriving DecidableEq

namespace ReadError

/-- The spellings that a kind has in JSON, for a message. -/
def variants : String :=
  String.intercalate ", " (Kind.all.map fun k => "`" ++ k.jsonName ++ "`")

def message : ReadError → String
  | .invalidType found expected =>
    "invalid type: " ++ found.describe ++ ", expected " ++ expected.describe
  | .notSingleEntry => "invalid value: map, expected map with a single key"
  | .unknownVariant name => "unknown variant `" ++ name ++ "`, expected one of " ++ variants
  | .badText e => e.message

end ReadError
end Json
end CheckerTags

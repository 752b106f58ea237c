import CheckerTags.Json.Error

/-!
# CheckerTags.Json.Kind

Kinds in JSON. A kind is written as a string. It is read from that string, or from an object
whose only key is that string and whose value is `null`; the key is looked at before the value.
A list of kinds is an array of them, and the first bad element is the error.
-/

namespace CheckerTags
namespace Kind

open Json (ReadError)

def ofVariant (name : String) : Except ReadError Kind :=
  match ofJsonName? name with
  | some k => .ok k
  | none => .error (.unknownVariant name)

def ofJson : Json → Except ReadError Kind
  | .str name => ofVariant name
  | .obj [(name, value)] =>
    match ofVariant name with
    | .error e => .error e
    | .ok k =>
      match value with
      | .null => .ok k
      | other => .error (.invalidType other.shape .unit)
  | .obj _ => .error .notSingleEntry
  | other => .error (.invalidType other.shape .stringOrMap)

/-- Reads the elements of an array, up to the first that is no kind. -/
def ofElements : List Json → Except ReadError (List Kind)
  | [] => .ok []
  | item :: rest =>
    match ofJson item with
    | .error e => .error e
    | .ok k =>
      match ofElements rest with
      | .error e => .error e
      | .ok ks => .ok (k :: ks)

def listOfJson : Json → Except ReadError (List Kind)
  | .arr items => ofElements items
  | other => .error (.invalidType other.shape .sequence)

def toJson (k : Kind) : Json := .str k.jsonName

def listToJson (ks : List Kind) : Json := .arr (ks.map toJson)

end Kind
end CheckerTags

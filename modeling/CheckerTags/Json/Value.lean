import CheckerTags.Decimal
import CheckerTags.Text.Quoted

/-!
# CheckerTags.Json.Value

JSON values, and what a message says about one. A number is an integer or a float, by how it is
written (`Json.Literal`).

* `Json.shape`: what of a value a message tells, its type and the value itself if it is a scalar.
-/

namespace CheckerTags

inductive Json where
  | null
  | bool (b : Bool)
  | int (n : Int)
  | float (x : Float)
  | str (s : String)
  | arr (items : List Json)
  | obj (entries : List (String × Json))

namespace Json

/-- An object from its entries as written. A key that is written twice counts once, with the
value written last. -/
def object (entries : List (String × Json)) : Json :=
  .obj (entries.foldl (fun kept e => kept.filter (fun f => f.1 != e.1) ++ [e]) [])

/-- What a message tells of a value. -/
inductive Shape where
  | null
  | bool (b : Bool)
  | int (n : Int)
  | float (x : Float)
  | str (s : String)
  | seq
  | map
  deriving DecidableEq

def shape : Json → Shape
  | .null => .null
  | .bool b => .bool b
  | .int n => .int n
  | .float x => .float x
  | .str s => .str s
  | .arr _ => .seq
  | .obj _ => .map

def Shape.describe : Shape → String
  | .null => "null"
  | .bool b => "boolean `" ++ toString b ++ "`"
  | .int n => "integer `" ++ toString n ++ "`"
  | .float x => "floating point `" ++ Decimal.text x ++ "`"
  | .str s => "string " ++ Quoted.quote s
  | .seq => "sequence"
  | .map => "map"

end Json
end CheckerTags

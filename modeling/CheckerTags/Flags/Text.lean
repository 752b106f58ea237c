import CheckerTags.Flags.Walk
import CheckerTags.Text.Numeral

/-!
# CheckerTags.Flags.Text

The text form of a set of flags, such as `PUBLIC | STATIC | 0x80000000`: its names, and the
remaining bits as one hexadecimal numeral, with ` | ` between them. The empty set is the empty
text.

Reading is more liberal than writing: parts come in any order and may repeat or overlap, white
space around a part does not count, every numeral is taken, and a text of white space alone is
the empty set. The parts are read from left to right, and the first bad one is the error.

White space is the 25 characters of the Unicode property `White_Space`. Zero-width characters and
the information separators U+001C to U+001F are not among them.
-/

namespace CheckerTags

/-! ## White space -/

namespace Blank

/-- The ranges of `White_Space`, ends included. -/
def ranges : List (Nat × Nat) :=
  [(0x09, 0x0D), (0x20, 0x20), (0x85, 0x85), (0xA0, 0xA0), (0x1680, 0x1680), (0x2000, 0x200A),
   (0x2028, 0x2029), (0x202F, 0x202F), (0x205F, 0x205F), (0x3000, 0x3000)]

/-- Whether a character is white space. -/
def isBlank (c : Char) : Bool := ranges.any fun r => r.1 ≤ c.toNat && c.toNat ≤ r.2

/-- A text without the white space at its two ends. -/
def trim (cs : List Char) : List Char :=
  ((cs.dropWhile isBlank).reverse.dropWhile isBlank).reverse

end Blank

/-! ## Errors -/

/-- Why a text is not the text form of a set of flags. -/
inductive TextError where
  /-- There is nothing between two separators. -/
  | emptyFlag
  /-- After `0x` stands something that is not the numeral of a word. -/
  | invalidHex
  /-- No constant has this name. -/
  | unknownName
  deriving DecidableEq

def TextError.message : TextError → String
  | .emptyFlag => "encountered empty flag"
  | .invalidHex => "invalid hex flag"
  | .unknownName => "unrecognized named flag"

namespace Flags

variable {v : Vocab}

/-! ## Writing -/

/-- The bits as a hexadecimal numeral behind `0x`. -/
def hex (a : Flags v) : String := "0x" ++ String.ofList (Numeral.write 16 a.bits)

def octal (a : Flags v) : String := String.ofList (Numeral.write 8 a.bits)

def binary (a : Flags v) : String := String.ofList (Numeral.write 2 a.bits)

def words (a : Flags v) : List String :=
  a.names ++ if a.remaining.isEmpty then [] else [a.remaining.hex]

def text (a : Flags v) : String := String.intercalate " | " a.words

/-- What stands between the parentheses of the debug form: the text form, or `0x0` for the empty
set. -/
def payload (a : Flags v) : String := if a.isEmpty then "0x0" else a.text

def debug (a : Flags v) : String := v.setName ++ "(" ++ a.payload ++ ")"

/-! ## Reading -/

def readTrimmed : List Char → Except TextError (Flags v)
  | [] => .error .emptyFlag
  | '0' :: 'x' :: numeral =>
    match Numeral.readWord? numeral with
    | some word => .ok ⟨word⟩
    | none => .error .invalidHex
  | name =>
    match ofName? (String.ofList name) with
    | some a => .ok a
    | none => .error .unknownName

def readPart (part : List Char) : Except TextError (Flags v) := readTrimmed (Blank.trim part)

def readParts : List (List Char) → Except TextError (Flags v)
  | [] => .ok ∅
  | part :: parts =>
    match readPart part with
    | .error e => .error e
    | .ok a =>
      match readParts parts with
      | .error e => .error e
      | .ok b => .ok (a ∪ b)

def ofText (s : String) : Except TextError (Flags v) :=
  if s.toList.all Blank.isBlank then .ok ∅ else readParts (s.toList.splitOn '|')

end Flags
end CheckerTags

/-!
# CheckerTags.Text.Numeral

Numerals of 32-bit words. Writing has no padding and lower-case digits. Reading takes
hexadecimal digits of either case with any number of leading zeros, after at most one `+`.

A numeral denotes an unbounded natural number (`hexValue?`); the bound of the word is checked on
that number (`readWord?`), so a numeral that is too large is refused and never wraps.
-/

namespace CheckerTags
namespace Numeral

/-- The numeral of a word in base `base`, most significant digit first. -/
def write (base : Nat) (word : BitVec 32) : List Char := Nat.toDigits base word.toNat

/-- The value of a hexadecimal digit. -/
def hexDigit? (c : Char) : Option Nat :=
  if '0' ≤ c ∧ c ≤ '9' then some (c.toNat - '0'.toNat)
  else if 'a' ≤ c ∧ c ≤ 'f' then some (c.toNat - 'a'.toNat + 10)
  else if 'A' ≤ c ∧ c ≤ 'F' then some (c.toNat - 'A'.toNat + 10)
  else none

/-- The number with the given digits, most significant digit first. -/
def ofDigits (base : Nat) (digits : List Nat) : Nat :=
  digits.foldl (fun n d => base * n + d) 0

/-- The number that one or more hexadecimal digits denote. -/
def hexValue? : List Char → Option Nat
  | [] => none
  | cs => (cs.mapM hexDigit?).map (ofDigits 16)

/-- A numeral without its sign, if it has one. -/
def dropPlus : List Char → List Char
  | '+' :: cs => cs
  | cs => cs

/-- The word that a hexadecimal numeral denotes. -/
def readWord? (cs : List Char) : Option (BitVec 32) :=
  match hexValue? (dropPlus cs) with
  | some n => if n < 0x100000000 then some (BitVec.ofNat 32 n) else none
  | none => none

end Numeral
end CheckerTags

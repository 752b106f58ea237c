import CheckerTags.Json.Value

/-!
# CheckerTags.Json.Literal

What a number written in JSON denotes. Without fraction and exponent it is an integer if it fits
64 bits, signed or unsigned; `-0` and all other literals are floats.

A float is made in a few roundings and need not be the nearest one. Digits are taken as long as
they fit an unsigned 64-bit significand; of those that do not, the ones before the point only
count as powers of ten. The significand is rounded to a float, and then multiplied or divided
once by the float next to a power of ten (twice, where that power of ten is below all floats). A
literal that leaves the range of floats on this way denotes nothing.
-/

namespace CheckerTags
namespace Json

/-- A number as it is written, each part by its digits. -/
structure Literal where
  negative : Bool
  whole : List Nat
  /-- The digits after the point, if there is one. -/
  fraction : Option (List Nat)
  /-- The exponent, if there is one. -/
  exponent : Option Int
  deriving DecidableEq

namespace Literal

/-- A significand and the power of ten that it is to be scaled by. -/
structure Parts where
  significand : Nat
  exponent : Int
  deriving DecidableEq

/-- Takes digits into a significand as long as it fits 64 bits; gives the digits left over. -/
def absorb (significand : Nat) : List Nat → Nat × List Nat
  | [] => (significand, [])
  | d :: ds =>
    if 10 * significand + d < 0x10000000000000000 then absorb (10 * significand + d) ds
    else (significand, d :: ds)

def parts (l : Literal) : Parts :=
  let (high, skipped) := absorb 0 l.whole
  let fraction := l.fraction.getD []
  let (all, ignored) := absorb high fraction
  let taken := fraction.length - ignored.length
  ⟨all, l.exponent.getD 0 + skipped.length - taken⟩

/-- The float next to `10 ^ e`. -/
def powerOfTen (e : Nat) : Float := Float.ofScientific 1 false e

/-- Scales a significand; gives nothing if the result is too large. -/
def scale? (p : Parts) : Option Float :=
  let x := Float.ofNat p.significand
  if p.significand = 0 then some x
  else if 308 < p.exponent then none
  else if 0 ≤ p.exponent then
    let y := x * powerOfTen p.exponent.toNat
    if y.isInf then none else some y
  else if -308 ≤ p.exponent then some (x / powerOfTen (-p.exponent).toNat)
  else if -616 ≤ p.exponent then
    some (x / powerOfTen 308 / powerOfTen (-p.exponent - 308).toNat)
  else some 0

/-- The float that a literal denotes, if it is in range. -/
def float? (l : Literal) : Option Json :=
  (scale? l.parts).map fun x => .float (if l.negative then -x else x)

def value? (l : Literal) : Option Json :=
  if l.fraction.isNone ∧ l.exponent.isNone then
    let n : Nat := l.whole.foldl (fun n d => 10 * n + d) 0
    if l.negative then
      if 0 < n ∧ n ≤ 0x8000000000000000 then some (.int (-(n : Int))) else l.float?
    else if n < 0x10000000000000000 then some (.int n) else l.float?
  else l.float?

end Literal
end Json
end CheckerTags

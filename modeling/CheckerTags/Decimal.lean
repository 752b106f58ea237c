/-!
# CheckerTags.Decimal

The shortest decimal of a float, and how it is laid out.

A finite positive float is `m * 2 ^ q`. Its rounding cell holds the numbers that are read as this
float and no other: it reaches half way to the floats next to it, and the two ends belong to it
when `m` is even, as ties are rounded to even.

Among the decimals in the cell, those with the fewest digits are looked for, and of these the
nearest. If two are equally near, the one with the even last digit is taken. The multiples of
`10 ^ e` form a grid; a decimal has the fewest digits when its grid is the coarsest one that meets
the cell. If any point of a grid lies in the cell, then so does one of the two points next to the
float.

From `0.00001` up to below `1e16` a decimal is written in positions, always with a point and a
digit after it; outside that range with an exponent, such as `1.5e-7` or `1e+21`. The exponent has
a sign in any case, and no padding. A minus stands in front, also in front of zero.
-/

namespace CheckerTags
namespace Decimal

/-! ## The rounding cell -/

/-- An interval of numbers around a float. -/
structure Cell where
  low : Rat
  value : Rat
  high : Rat
  /-- Whether the two ends belong to the cell. -/
  closed : Bool

def Cell.has (c : Cell) (x : Rat) : Bool :=
  if c.closed then c.low ≤ x && x ≤ c.high else c.low < x && x < c.high

/-- The bit that a float stores only by its exponent: `2 ^ 52`. -/
def leadingBit : Nat := 0x10000000000000

/-- The cell of `m * 2 ^ q`. Just above a power of two the float below is only half as far away,
unless the exponent is already the least. -/
def cellOf (m : Nat) (q : Int) : Cell :=
  let unit := Rat.zpow 2 q
  let below : Rat := if m = leadingBit ∧ q ≠ -1074 then unit / 4 else unit / 2
  let value : Rat := m * unit
  ⟨value - below, value, value + unit / 2, decide (m % 2 = 0)⟩

/-- A float without its sign, as `m * 2 ^ q`. -/
def magnitude (x : Float) : Nat × Int :=
  let word := x.toBits.toNat
  let exponent : Nat := word / leadingBit % 0x800
  let fraction : Nat := word % leadingBit
  if exponent = 0 then (fraction, -1074) else (leadingBit + fraction, (exponent : Int) - 1075)

/-- Whether the sign of a float is minus; zero has a sign, too. -/
def isNegative (x : Float) : Bool := x.toBits.toNat / 0x8000000000000000 == 1

/-! ## The shortest decimal -/

/-- The number `digits * 10 ^ exponent`. -/
structure Scaled where
  digits : Nat
  exponent : Int
  deriving DecidableEq

/-- The point of the grid of `10 ^ e` that stands for the cell, if one lies in it. -/
def onGrid? (c : Cell) (e : Int) : Option Scaled :=
  let step := Rat.zpow 10 e
  let below := (c.value / step).floor.toNat
  let above := below + 1
  let down := c.value - below * step
  let up := above * step - c.value
  match c.has (below * step), c.has (above * step) with
  | false, false => none
  | true, false => some ⟨below, e⟩
  | false, true => some ⟨above, e⟩
  | true, true =>
    if down < up ∨ (down = up ∧ below % 2 = 0) then some ⟨below, e⟩ else some ⟨above, e⟩

/-- Tries the grids from `10 ^ e` down, `fuel` of them. -/
def search (c : Cell) : Nat → Int → Option Scaled
  | 0, _ => none
  | fuel + 1, e =>
    match onGrid? c e with
    | some d => some d
    | none => search c fuel (e - 1)

/-- The shortest decimal of a positive finite float. Every such float is below `10 ^ 309` and on
the grid of `10 ^ (-1074)`, so the search ends within these. -/
def shortest? (x : Float) : Option Scaled :=
  let (m, q) := magnitude x
  search (cellOf m q) (309 + 1074 + 1) 309

/-! ## Layout -/

/-- Digits with the point after the first `n` of them. -/
def withPoint (ds : List Char) (n : Nat) : List Char :=
  let padded := ds ++ List.replicate (n - ds.length) '0'
  match padded.drop n with
  | [] => padded ++ ['.', '0']
  | fraction => padded.take n ++ ['.'] ++ fraction

/-- The exponent of ten behind its mark. -/
def exponentPart (e : Int) : List Char :=
  ['e', if e < 0 then '-' else '+'] ++ Nat.toDigits 10 e.natAbs

/-- A positive decimal, where `lead` is the exponent of ten of its first digit. -/
def layout (d : Scaled) : List Char :=
  let ds := Nat.toDigits 10 d.digits
  let lead : Int := d.exponent + ds.length - 1
  if 0 ≤ lead ∧ lead ≤ 15 then withPoint ds (lead.toNat + 1)
  else if -5 ≤ lead ∧ lead < 0 then
    ['0', '.'] ++ List.replicate ((-lead).toNat - 1) '0' ++ ds
  else
    let head := if ds.length = 1 then ds else ds.take 1 ++ ['.'] ++ ds.drop 1
    head ++ exponentPart lead

def text (x : Float) : String :=
  let sign := if isNegative x then ['-'] else []
  let body :=
    if (magnitude x).1 = 0 then ['0', '.', '0']
    else ((shortest? x).map layout).getD []
  String.ofList (sign ++ body)

end Decimal
end CheckerTags

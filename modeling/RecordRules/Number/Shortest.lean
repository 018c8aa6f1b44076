import RecordRules.Number.Binary

/-!
# Shortest decimals

The decimal that stands for a binary floating-point number: of all decimals that lie
nearer to the number than to its neighbours, one with the fewest digits, and of those
the nearest.  A tie between two goes to the larger.

The search goes over decimal grids, the multiples of `10 ^ k`, from coarse to fine, and
looks only at the two points of a grid on either side of the number.
-/

namespace RecordRules

/-- The decimal `digits * 10 ^ exponent`. -/
structure Decimal where
  digits : Nat
  exponent : Int
deriving DecidableEq, Repr

/-- The fractions that round to one number: from `low / unit` to `high / unit`, the
number itself being `middle / unit`; `closed` says whether the ends belong to it. -/
structure RoundingInterval where
  low : Nat
  middle : Nat
  high : Nat
  unit : Nat
  closed : Bool
deriving DecidableEq, Repr

namespace RoundingInterval

/-- The interval around `digits * 2 ^ exponent`.  The ends lie half a unit of the last
place away, below a power of two a quarter; they round to the number if its digits are
even. -/
def around (f : BinaryFormat) (digits : Nat) (exponent : Int) : RoundingInterval :=
  let below := if digits = twoTo (f.precision - 1) then 1 else 2
  let scale := twoTo (exponent - 2).toNat
  { low := (4 * digits - below) * scale
    middle := 4 * digits * scale
    high := (4 * digits + 2) * scale
    unit := twoTo (2 - exponent).toNat
    closed := digits % 2 == 0 }

/-- The grid point `point * 10 ^ exponent` lies in the interval. -/
def Holds (i : RoundingInterval) (point : Nat) (exponent : Int) : Bool :=
  let scale := tenTo (-exponent).toNat
  let place := point * (i.unit * tenTo exponent.toNat)
  if i.closed then i.low * scale ≤ place && place ≤ i.high * scale
  else i.low * scale < place && place < i.high * scale

/-- The grid point next to the middle that lies in the interval, if there is one. -/
def pointAt (i : RoundingInterval) (exponent : Int) : Option Nat :=
  let scaled := i.middle * tenTo (-exponent).toNat
  let step := i.unit * tenTo exponent.toNat
  let below := scaled / step
  let above := below + 1
  match i.Holds below exponent, i.Holds above exponent with
  | true, true => if above * step - scaled ≤ scaled - below * step then some above else some below
  | true, false => some below
  | false, true => some above
  | false, false => none

/-- The number of digits before the point, or less one than minus the number of zeros
after it: all of the number lies below ten to this exponent. -/
def topExponent (i : RoundingInterval) : Int :=
  if i.unit ≤ i.middle then (Nat.toDigits 10 (i.middle / i.unit)).length
  else 1 - (Nat.toDigits 10 ((i.unit - 1) / i.middle)).length

/-- Tries grids from `10 ^ exponent` downwards. -/
def search (i : RoundingInterval) : Nat → Int → Decimal
  | 0, exponent => ⟨i.middle * tenTo (-exponent).toNat / (i.unit * tenTo exponent.toNat), exponent⟩
  | steps + 1, exponent =>
    match i.pointAt exponent with
    | some point => ⟨point, exponent⟩
    | none => i.search steps (exponent - 1)

/-- The decimal with the fewest digits in the interval; seventeen digits always do. -/
def shortest (i : RoundingInterval) : Decimal :=
  i.search 20 i.topExponent

end RoundingInterval

/-- The shortest decimal that reads back as `digits * 2 ^ exponent`, which is not zero. -/
def shortestDecimal (f : BinaryFormat) (digits : Nat) (exponent : Int) : Decimal :=
  (RoundingInterval.around f digits exponent).shortest

end RecordRules

import RecordRules.Number.Power

/-!
# Binary floating-point numbers

A `BinaryFormat` fixes how many binary digits a number may have and how far its
exponent may range; `Binary f` is the type of the numbers of format `f`, with the two
infinities and one value that is not a number.  A finite number is a sign and the
one canonical pair of digits and exponent that denotes its magnitude, so equality of
values of `Binary f` is equality of numbers (the two zeros apart).

* `Binary.ofRatio` is the number nearest to a fraction, ties going to the even digits.
* `Binary.units` counts a finite number in units of the last place of the smallest
  numbers; the order of finite numbers is the order of these counts.
-/

namespace RecordRules

/-- The finite numbers of a format are `digits * 2 ^ exponent` with fewer than
`2 ^ precision` digits and an exponent from `lowest` to `highest`. -/
structure BinaryFormat where
  precision : Nat
  lowest : Int
  highest : Int
  lowest_le_highest : lowest ≤ highest := by decide
deriving DecidableEq

namespace BinaryFormat

/-- 64 bits: 53 binary digits, magnitudes up to about `1.8e308`. -/
def double : BinaryFormat where
  precision := 53
  lowest := -1074
  highest := 971

/-- 32 bits: 24 binary digits, magnitudes up to about `3.4e38`. -/
def single : BinaryFormat where
  precision := 24
  lowest := -149
  highest := 104

/-- Each magnitude of the format has exactly one canonical pair: the top digit is
used, unless the exponent can go no lower. -/
def Canonical (f : BinaryFormat) (digits : Nat) (exponent : Int) : Prop :=
  digits < twoTo f.precision ∧ f.lowest ≤ exponent ∧ exponent ≤ f.highest ∧
    (twoTo (f.precision - 1) ≤ digits ∨ exponent = f.lowest)

instance (f : BinaryFormat) (digits : Nat) (exponent : Int) :
    Decidable (f.Canonical digits exponent) :=
  inferInstanceAs (Decidable (_ ∧ _))

theorem canonical_zero (f : BinaryFormat) : f.Canonical 0 f.lowest :=
  ⟨twoTo_pos _, Int.le_refl _, f.lowest_le_highest, .inr rfl⟩

end BinaryFormat

/-- A floating-point number of a format. -/
inductive Binary (f : BinaryFormat) where
  | nan
  | infinite (negative : Bool)
  | finite (negative : Bool) (digits : Nat) (exponent : Int)
      (canonical : f.Canonical digits exponent)
deriving DecidableEq

/-- The 64-bit numbers. -/
abbrev Double := Binary .double

/-- The 32-bit numbers. -/
abbrev Single := Binary .single

/-- The quotient of two natural numbers, rounded to the nearest; a half goes to the
even neighbour. -/
def roundHalfEven (num den : Nat) : Nat :=
  let quotient := num / den
  let rest := num % den
  if 2 * rest < den then quotient
  else if den < 2 * rest then quotient + 1
  else quotient + quotient % 2

/-- The fraction `num / den` counted in units of `2 ^ exponent`, as a fraction again. -/
def inUnitsOf (exponent : Int) (num den : Nat) : Nat × Nat :=
  if 0 ≤ exponent then (num, den * twoTo exponent.toNat)
  else (num * twoTo (-exponent).toNat, den)

namespace Binary

variable {f : BinaryFormat}

/-- Zero with a sign. -/
def zero (negative : Bool) : Binary f :=
  .finite negative 0 f.lowest f.canonical_zero

instance : Inhabited (Binary f) := ⟨zero false⟩

/-- The number with these digits and exponent; too large a magnitude is infinite. -/
def ofCanonical (negative : Bool) (digits : Nat) (exponent : Int) : Binary f :=
  if canonical : f.Canonical digits exponent then .finite negative digits exponent canonical
  else .infinite negative

/-- The exponent at which `num / den` has as many binary digits as the format keeps. -/
def exponentFor (f : BinaryFormat) (num den : Nat) : Int :=
  let guess : Int := (Nat.log2 num : Int) - Nat.log2 den - f.precision
  let (scaled, unit) := inUnitsOf guess num den
  let exponent := if twoTo f.precision ≤ scaled / unit then guess + 1 else guess
  max exponent f.lowest

/-- The number nearest to `num / den`, a half going to the even digits. -/
def ofRatio (negative : Bool) (num den : Nat) : Binary f :=
  if num = 0 then zero negative
  else
    let exponent := exponentFor f num den
    let (scaled, unit) := inUnitsOf exponent num den
    let digits := roundHalfEven scaled unit
    if digits = twoTo f.precision then ofCanonical negative (twoTo (f.precision - 1)) (exponent + 1)
    else ofCanonical negative digits exponent

/-- The number nearest to an integer. -/
def ofInt (n : Int) : Binary f :=
  ofRatio (n < 0) n.natAbs 1

/-- The number nearest to `±digits * 10 ^ exponent`.  Magnitudes beyond `10 ^ 400`
or below `10 ^ (-400)` need no arithmetic. -/
def ofDecimal (negative : Bool) (digits : Nat) (exponent : Int) : Binary f :=
  if digits = 0 then zero negative
  else
    let point : Int := (Nat.toDigits 10 digits).length + exponent
    if 400 < point then .infinite negative
    else if point < -400 then zero negative
    else if 0 ≤ exponent then ofRatio negative (digits * tenTo exponent.toNat) 1
    else ofRatio negative digits (tenTo (-exponent).toNat)

/-- The nearest number of another format. -/
def convert {g : BinaryFormat} : Binary f → Binary g
  | .nan => .nan
  | .infinite negative => .infinite negative
  | .finite negative digits exponent _ =>
    if 0 ≤ exponent then ofRatio negative (digits * twoTo exponent.toNat) 1
    else ofRatio negative digits (twoTo (-exponent).toNat)

/-- A finite number, counted in units of `2 ^ f.lowest`. -/
def units : Binary f → Option Int
  | .finite negative digits exponent _ =>
    let magnitude : Int := (digits * twoTo (exponent - f.lowest).toNat : Nat)
    some (if negative then -magnitude else magnitude)
  | _ => none

/-- Strict order; what is not a number is not comparable, and the zeros are equal. -/
def lt : Binary f → Binary f → Bool
  | .nan, _ => false
  | _, .nan => false
  | .infinite s, .infinite t => s && !t
  | .infinite s, .finite .. => s
  | .finite .., .infinite t => !t
  | x@(.finite ..), y@(.finite ..) => x.units.getD 0 < y.units.getD 0

/-- Either zero. -/
def isZero (x : Binary f) : Bool :=
  x.units == some 0

/-- The integer that a finite number without fraction is. -/
def toInt? (x : Binary f) : Option Int :=
  match x.units with
  | some units =>
    let one : Int := twoTo (-f.lowest).toNat
    if units % one = 0 then some (units / one) else none
  | none => none

end Binary

end RecordRules

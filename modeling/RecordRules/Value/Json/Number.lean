import RecordRules.Number.Reading
import RecordRules.Value.Json

/-!
# The numbers of JSON documents

A number is read as its leading digits, as far as they fit into 64 bits, and a power of
ten.  Later digits count by their place only.  A number with a point or an exponent is the
double nearest to the leading digits, multiplied or divided by the double nearest to the
power, so it is rounded up to three times and need not be the nearest double.  Powers that
doubles cannot hold are divided by in steps.
-/

namespace RecordRules

namespace Binary

variable {f : BinaryFormat}

/-- The size of a finite number, as a fraction. -/
def fraction? : Binary f → Option (Nat × Nat)
  | .finite _ digits exponent _ =>
    some (if 0 ≤ exponent then (digits * twoTo exponent.toNat, 1)
      else (digits, twoTo (-exponent).toNat))
  | _ => none

/-- The product of two numbers without sign, rounded to the nearest. -/
def product (x y : Binary f) : Binary f :=
  match x.fraction?, y.fraction? with
  | some (a, b), some (c, d) => ofRatio false (a * c) (b * d)
  | _, _ => .nan

/-- The quotient of two numbers without sign, the second not zero, rounded to the nearest. -/
def quotient (x y : Binary f) : Binary f :=
  match x.fraction?, y.fraction? with
  | some (a, b), some (c, d) => ofRatio false (a * d) (b * c)
  | _, _ => .nan

end Binary

namespace Json

/-- The greatest exponent of a power of ten that is a double. -/
def greatestPower : Nat := 308

/-- A number without sign times a power of ten, if there is such a double. -/
def scaled? (x : Double) (exponent : Int) : Option JsonFloat :=
  if exponent < -greatestPower then
    if x.isZero then keep x
    else scaled? (x.quotient (.ofDecimal false 1 greatestPower)) (exponent + greatestPower)
  else if exponent < 0 then keep (x.quotient (.ofDecimal false 1 (-exponent)))
  else if exponent ≤ greatestPower then keep (x.product (.ofDecimal false 1 exponent))
  else if x.isZero then keep x
  else none
termination_by (-exponent).toNat
decreasing_by simp only [greatestPower] at *; omega
where
  keep (x : Double) : Option JsonFloat :=
    if finite : x.isFinite = true then some ⟨x, finite⟩ else none

/-- The number whose digits follow those of a number, up to the first digit with which it
would need more than 64 bits, and the number of digits that are left. -/
def leading (number : Nat) : List Char → Nat × Nat
  | [] => (number, 0)
  | c :: cs =>
    let longer := 10 * number + digitValue c
    if longer < twoTo 64 then leading longer cs else (number, cs.length + 1)

/-- The fraction after the whole part of a number: nothing, or a point and digits. -/
def readFraction : List Char → Option (List Char × List Char)
  | '.' :: cs =>
    let digits := cs.takeWhile Char.isDigit
    if digits.isEmpty then none else some (digits, cs.dropWhile Char.isDigit)
  | cs => some ([], cs)

/-- The number that its characters denote.  Without point and exponent it is an integer,
minus zero excepted, if it has no more than 64 bits. -/
def readNumber (cs : List Char) : Option Json := do
  let negative := cs.head? = some '-'
  let cs := if negative then cs.drop 1 else cs
  let whole := cs.takeWhile Char.isDigit
  let rest := cs.dropWhile Char.isDigit
  if whole.isEmpty || (whole.head? = some '0' && 1 < whole.length) then none
  let (significand, left) := leading 0 whole
  let signed (x : JsonFloat) : Json := if negative then .float (negated x) else .float x
  if rest.isEmpty && left = 0 then
    if negative && significand = 0 then some (.ofDouble (.zero true))
    else some (.ofInt (if negative then -(significand : Int) else significand))
  else
    let (fraction, rest) ← readFraction rest
    let (significand, dropped) := leading significand fraction
    let exponent ← readExponent rest
    let shift : Int := left - (fraction.length - dropped : Nat)
    (scaled? (.ofInt significand) (shift + exponent)).map signed
where
  negated (x : JsonFloat) : JsonFloat :=
    match x with
    | ⟨.finite _ digits exponent canonical, _⟩ => ⟨.finite true digits exponent canonical, rfl⟩
    | x => x

end Json

end RecordRules

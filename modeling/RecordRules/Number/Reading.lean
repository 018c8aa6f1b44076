import RecordRules.Number.Binary

/-!
# Reading numbers

The spellings of integers and of floating-point numbers, as values are given in text.
An integer is an optional sign and digits.  A floating-point number is an optional
sign and either digits with an optional point among or around them and an optional
exponent, or `inf`, `infinity` or `nan` in any case.
-/

namespace RecordRules

/-- The value of a digit. -/
def digitValue (c : Char) : Nat :=
  c.toNat - '0'.toNat

/-- The number that a list of decimal digits denotes, after the number before them. -/
def readDigits (digits : List Char) (before : Nat) : Nat :=
  digits.foldl (fun n c => 10 * n + digitValue c) before

/-- A non-empty list of decimal digits and nothing else. -/
def readNatural (cs : List Char) : Option Nat :=
  if !cs.isEmpty && cs.all Char.isDigit then some (readDigits cs 0) else none

/-- An integer; only a `signed` one may have a minus. -/
def readInteger (signed : Bool) : List Char → Option Int
  | '-' :: cs => if signed then (readNatural cs).map fun n => -(n : Int) else none
  | '+' :: cs => (readNatural cs).map Int.ofNat
  | cs => (readNatural cs).map Int.ofNat

/-- A sign, if there is one, and what follows it. -/
def splitSign : List Char → Bool × List Char
  | '-' :: cs => (true, cs)
  | '+' :: cs => (false, cs)
  | cs => (false, cs)

/-- The exponent that ends a number: nothing, or a mark, a sign and digits. -/
def readExponent : List Char → Option Int
  | [] => some 0
  | c :: cs => if c = 'e' || c = 'E' then readInteger true cs else none

/-- The digits after the point, if there is one, and what follows them. -/
def splitFraction : List Char → List Char × List Char
  | '.' :: cs => (cs.takeWhile Char.isDigit, cs.dropWhile Char.isDigit)
  | cs => ([], cs)

/-- The words for numbers that have no digits. -/
def readSpecial {f : BinaryFormat} (negative : Bool) (cs : List Char) : Option (Binary f) :=
  match String.ofList (cs.map Char.toLower) with
  | "nan" => some .nan
  | "inf" | "infinity" => some (.infinite negative)
  | _ => none

/-- A floating-point number, rounded to the nearest of its format. -/
def Binary.read? {f : BinaryFormat} (cs : List Char) : Option (Binary f) :=
  let (negative, cs) := splitSign cs
  let whole := cs.takeWhile Char.isDigit
  let (fraction, rest) := splitFraction (cs.dropWhile Char.isDigit)
  if whole.isEmpty && fraction.isEmpty then readSpecial negative cs
  else
    (readExponent rest).map fun exponent =>
      .ofDecimal negative (readDigits fraction (readDigits whole 0)) (exponent - fraction.length)

end RecordRules

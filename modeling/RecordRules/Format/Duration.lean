import RecordRules.Text.Property

/-!
# Durations

An optional sign and either a single zero or a row of terms, such as `1h30m` or `-1.5s`.
A term is a number, with an optional fraction, and a unit.  The digits may be the decimal
digits of any script.
-/

namespace RecordRules

/-- The character is a digit of a number. -/
def isDurationDigit (c : Char) : Bool :=
  c.isDigit || (0x80 ≤ c.toNat && CharSet.digits.contains c)

/-- The units, a longer one before those that it starts with. -/
def durationUnits : List String :=
  ["ns", "us", "µs", "μs", "ms", "s", "m", "h"]

/-- What follows a number at the front: digits, digits with a point after or among them,
or a point with digits after it. -/
def afterNumber (cs : List Char) : Option (List Char) :=
  let whole := cs.takeWhile isDurationDigit
  match cs.dropWhile isDurationDigit with
  | '.' :: rest =>
    if whole.isEmpty && (rest.takeWhile isDurationDigit).isEmpty then none
    else some (rest.dropWhile isDurationDigit)
  | rest => if whole.isEmpty then none else some rest

/-- What follows a unit at the front. -/
def afterUnit (cs : List Char) : Option (List Char) :=
  (durationUnits.find? fun unit => unit.toList.isPrefixOf cs).map fun unit => cs.drop unit.length

/-- What follows a term at the front. -/
def afterTerm (cs : List Char) : Option (List Char) :=
  (afterNumber cs).bind afterUnit

/-- A row of at most so many terms, at least one. -/
def isTermRow : Nat → List Char → Bool
  | 0, _ => false
  | n + 1, cs =>
    match afterTerm cs with
    | some rest => rest.isEmpty || isTermRow n rest
    | none => false

/-- The text without a sign at its front. -/
def withoutSign : List Char → List Char
  | '-' :: cs => cs
  | '+' :: cs => cs
  | cs => cs

/-- A duration. -/
def isDuration (cs : List Char) : Bool :=
  let cs := withoutSign cs
  cs = ['0'] || isTermRow cs.length cs

end RecordRules

import RecordRules.Check.Format
import RecordRules.Pattern.Reader
import RecordRules.Value.View

/-!
# Checks

The checks that look at one value and nothing else, apart from the root of the
structure in which the value was found.  A check knows its rule text, so that a failed
rule can be shown, and its test.  Checks beyond the ones listed here can be made from any
test.
-/

namespace RecordRules

/-- A check made from a test of the root and the value. -/
structure CustomCheck where
  /-- The rule text. -/
  rule : String
  /-- The check looks at the fields of nested structures itself. -/
  descends : Bool := false
  test : Option Value → Value → Outcome

/-- A check of one value. -/
inductive Check where
  | zero
  | required
  | atLeast (bound : Double)
  | atMost (bound : Double)
  | within (low high : Double)
  | lengthIs (expected : Int64)
  | oneOf (allowed : List String)
  /-- A power of a base with an exponent from `start` to `finish`. -/
  | powerOf (base start finish : Int64)
  | hasFormat (format : TextFormat)
  | matching (source : String) (pattern : Pattern)
  | custom (check : CustomCheck)

namespace Check

/-- The rule text of a check. -/
def rule : Check → String
  | zero => "zero"
  | required => "required"
  | atLeast bound => "min(" ++ bound.text ++ ")"
  | atMost bound => "max(" ++ bound.text ++ ")"
  | within low high => "ranger(" ++ low.text ++ ", " ++ high.text ++ ")"
  | lengthIs expected => "len(" ++ int64Text expected ++ ")"
  | oneOf allowed => "oneof(" ++ ", ".intercalate (allowed.map quoted) ++ ")"
  | powerOf base start finish =>
    "exp(" ++ int64Text base ++ ", " ++ int64Text start ++ ", " ++ int64Text finish ++ ")"
  | hasFormat format => format.name
  | matching source _ => "regexp(" ++ quoted source ++ ")"
  | custom check => check.rule

/-- The check looks at the fields of nested structures itself. -/
def descends : Check → Bool
  | custom check => check.descends
  | _ => false

/-- What bounds are compared with: the length of a text, a sequence or a map, and
otherwise the number; with the name of the measure. -/
def measure (code : String) (v : Value) : Except Failure (Double × String) :=
  match v.length?, v.number? with
  | some n, _ => .ok (.ofInt n, "length")
  | none, some x => .ok (x, "value")
  | none, none => .error (.unsupported code v.indirect.kind.name)

/-- The value measures at least the lower bound. -/
def testLow (code : String) (bound : Double) (v : Value) : Outcome :=
  match measure code v with
  | .ok (actual, measured) =>
    if actual.lt bound then .error (.lessThan code measured bound.text) else .ok ()
  | .error e => .error e

/-- The value measures at most the upper bound. -/
def testHigh (code : String) (bound : Double) (v : Value) : Outcome :=
  match measure code v with
  | .ok (actual, measured) =>
    if bound.lt actual then .error (.greaterThan code measured bound.text) else .ok ()
  | .error e => .error e

/-- The value has the expected length. -/
def testLength (expected : Int64) (v : Value) : Outcome :=
  match v.length? with
  | some n =>
    if (n : Int) = expected.toInt then .ok ()
    else
      let failure : Failure :=
        { code := "len", message := "the length is not equal to " ++ int64Text expected }
      .error ((failure.withParam "len" (int64Text expected)).withParam "actual" (toString n))
  | none => .error (.unsupported "len" v.indirect.kind.name)

/-- The text of the value is among the allowed ones. -/
def testOneOf (allowed : List String) (v : Value) : Outcome :=
  match v.literal? with
  | some l =>
    if l.text ∈ allowed then .ok ()
    else
      let listing := "[" ++ " ".intercalate allowed ++ "]"
      let failure : Failure :=
        { code := "oneof", message := "the value is not one of " ++ listing }
      .error (failure.withParam "oneof" listing)
  | none => .error (.unsupported "oneof" v.indirect.kind.name)

/-- The greatest exponent that is tried; beyond it no power of an integer other than
`-1`, `0` and `1` is the value of a field. -/
def greatestExponent : Nat := 128

/-- A power of an integer, if a signed word of 128 bits holds it. -/
def widePower? (base : Int) (exponent : Nat) : Option Int :=
  let power := Int.pow base exponent
  if -(twoTo 127 : Int) ≤ power ∧ power < (twoTo 127 : Int) then some power else none

/-- The number is a power of the base with an exponent from `start` to `finish`. -/
def isPower (base start finish n : Int) : Bool :=
  (List.range (greatestExponent + 1)).any fun k =>
    start ≤ k && k ≤ finish && widePower? base k == some n

/-- The value is such a power. -/
def testPower (base start finish : Int64) (v : Value) : Outcome :=
  let b := int64Text base
  let failure : Failure := {
    code := "exp"
    message := "the value is not a power of " ++ b ++ " between " ++ b ++ "^" ++
      int64Text start ++ " and " ++ b ++ "^" ++ int64Text finish }
  let test (n : Int) : Outcome :=
    if isPower base.toInt start.toInt finish.toInt n then .ok ()
    else .error (failure.withParam "base" b)
  match v.indirect.view with
  | .int n => test n.toInt
  | .uint n => test n.toNat
  | other => .error (.unsupported "exp" other.kind.name)

/-- The value is a text that passes. -/
def testText (code : String) (v : Value) (test : String → Outcome) : Outcome :=
  match v.string? with
  | some text => test text
  | none => .error (.unsupported code v.indirect.kind.name)

/-- The test of a check. -/
def test (c : Check) (root : Option Value) (v : Value) : Outcome :=
  match c with
  | zero =>
    if v.isZero then .ok () else .error { code := "zero", message := "the value is not zero" }
  | required =>
    if v.isZero then .error { code := "required", message := "the value is required" } else .ok ()
  | atLeast bound => testLow "min" bound v
  | atMost bound => testHigh "max" bound v
  | within low high =>
    match testLow "ranger" low v with
    | .ok () => testHigh "ranger" high v
    | .error e => .error e
  | lengthIs expected => testLength expected v
  | oneOf allowed => testOneOf allowed v
  | powerOf base start finish => testPower base start finish v
  | hasFormat format =>
    testText format.name v fun text =>
      if format.accepts text then .ok () else .error (.invalidFormat format.name format.noun)
  | matching source pattern =>
    testText "regexp" v fun text =>
      if pattern.occursIn text then .ok ()
      else
        let failure : Failure :=
          { code := "regexp", message := "the value does not match " ++ source }
        .error (failure.withParam "regexp" source)
  | custom check => check.test root v

end Check

end RecordRules

import RecordRules.Handler.Basic
import RecordRules.Table

/-!
# Stock handlers

The handlers that need no rulebook: one that controls the walk, two that assign values
and one that assigns what a provider gives.
-/

namespace RecordRules

namespace PlainHandler

/-- The verdict that an annotation gives: a dash or a truth value. -/
def parseVerdict (value : String) : Except Fatal Verdict :=
  if value = "-" then .ok .skip
  else
    match readBool value with
    | some true => .ok .descend
    | some false => .ok .skip
    | none => .error (.custom ("expected `-` or a boolean, got " ++ quoted value))

/-- Goes into a field or leaves it alone, as the annotation says. -/
def walkControl : PlainHandler where
  sort := .verdict
  parse := parseVerdict
  run verdict _ := { verdict := .ok verdict }

/-- Assigns what a source gives. -/
def assign (source : Source) (f : FieldView) : Reaction :=
  match source.resolve f.root with
  | .ok l => { assign := some l }
  | .error e => { verdict := .error e }

/-- Assigns a value to fields that are zero. -/
def defaults : PlainHandler where
  sort := .source
  parse := Source.parse
  run source f :=
    match f.value with
    | some v => if v.isZero then assign source f else {}
    | none => f.unresolved

/-- Assigns a value to every field. -/
def assignment : PlainHandler where
  sort := .source
  parse := Source.parse
  run := assign

/-- Assigns what the provider of a name gives. -/
def injection (providers : Table Literal) : PlainHandler where
  sort := .literal
  parse value :=
    match providers.get? value with
    | some l => .ok l
    | none => .error (.custom ("no provider named " ++ quoted value))
  run l _ := { assign := some l }

/-- The names of providers, for messages. -/
def describeProviders (providers : Table Literal) : String :=
  "InjectHandler \x7b providers: [" ++ ", ".intercalate (providers.keys.map quoted) ++ "] \x7d"

end PlainHandler

end RecordRules

import RecordRules.Table

/-!
# Failures

A `Failure` says why one value failed one check.  A `Failures` collects the failures of
a whole structure by the path of the field, in the order of the paths.  A failure may
itself carry the failures found inside a nested structure; recording such a failure
puts those at paths below its own.
-/

namespace RecordRules

/-- Joins two paths.  A dot separates them, unless the second starts with an index or
one of them is empty. -/
def joinPath (path rest : String) : String :=
  if path.isEmpty then rest
  else if rest.isEmpty then path
  else if rest.toList.head? = some '[' then path ++ rest
  else path ++ "." ++ rest

/-- Why a value failed a check: a stable code, a message, the parameters of the message
and, if the value is a structure, the failures of its fields by path. -/
structure Failure where
  code : String
  message : String
  params : List (String × String) := []
  fields : Option (List (String × Failure)) := none

/-- Failures by path, in ascending order of the paths. -/
abbrev Failures := Table Failure

namespace Failures

/-- One line for all failures. -/
def text (fs : Failures) : String :=
  "; ".intercalate (fs.entries.map fun (path, failure) => path ++ ": " ++ failure.message)

/-- The same failures at paths below another one. -/
def under (path : String) (fs : List (String × Failure)) : Failures :=
  .ofList (fs.map fun (rest, failure) => (joinPath path rest, failure))

/-- Adds a failure at a path.  The failures of a nested structure are added one by one
at the paths below it. -/
def record (fs : Failures) (path : String) (failure : Failure) : Failures :=
  match failure.fields with
  | some nested =>
    nested.foldl (fun fs (rest, failure) => fs.insert (joinPath path rest) failure) fs
  | none => fs.insert path failure

end Failures

namespace Failure

/-- A failure with a parameter more. -/
def withParam (failure : Failure) (key value : String) : Failure :=
  { failure with params := failure.params ++ [(key, value)] }

/-- The value of a parameter. -/
def param? (failure : Failure) (key : String) : Option String :=
  (failure.params.find? fun param => param.1 = key).map Prod.snd

/-- The failure of a structure whose fields have failures. -/
def nested (fs : Failures) : Failure where
  code := "structure"
  message := fs.text
  fields := some fs.entries

/-- The failure of a value inside another one: its message names the place, or, if it
has failures of fields, those move to paths below the segment. -/
def inside (failure : Failure) (label segment : String) : Failure :=
  match failure.fields with
  | some fields =>
    let moved := Failures.under segment fields
    { failure with message := moved.text, fields := some moved.entries }
  | none => { failure with message := label ++ ": " ++ failure.message }

/-- The measure is below its lower bound. -/
def lessThan (code measure bound : String) : Failure where
  code := code
  message := "the " ++ measure ++ " is less than " ++ bound
  params := [(code, bound)]

/-- The measure is above its upper bound. -/
def greaterThan (code measure bound : String) : Failure where
  code := code
  message := "the " ++ measure ++ " is greater than " ++ bound
  params := [(code, bound)]

/-- The check does not apply to values of this kind. -/
def unsupported (code kind : String) : Failure where
  code := code
  message := code ++ " does not apply to a value of kind " ++ kind
  params := [("kind", kind)]

/-- The text does not have its format. -/
def invalidFormat (code expected : String) : Failure where
  code := code
  message := "the value is not a valid " ++ expected

end Failure

/-- The result of a check. -/
abbrev Outcome := Except Failure Unit

end RecordRules

import RecordRules.Rulebook.Argument
import RecordRules.Value.Assign

/-!
# Fatal errors

What ends a walk before all fields have been seen: a malformed annotation or rule, or a
field that cannot be read or set.  Values that fail their rules are no errors of this
kind; they are recorded, and the walk goes on.
-/

namespace RecordRules

/-- Why a walk ended early. -/
inductive Fatal where
  /-- An annotation could not be read. -/
  | malformed (tag value : String) (cause : Fatal)
  | rule (e : BuildError)
  | unsettable (path : String)
  | unresolved (path : String)
  | assignment (path : String) (e : SetError)
  | custom (message : String)
deriving DecidableEq

namespace Fatal

/-- The stable code of an error. -/
def code : Fatal → String
  | malformed .. => "TAG:PARSE"
  | rule _ => "TAG:RULE"
  | unsettable _ => "TAG:UNSETTABLE"
  | unresolved _ => "TAG:UNRESOLVED"
  | assignment .. => "TAG:SET"
  | custom _ => "TAG:CUSTOM"

/-- The message of an error. -/
def message : Fatal → String
  | malformed tag value cause =>
    "annotation `" ++ tag ++ ":\"" ++ value ++ "\"`: " ++ cause.message
  | rule e => e.message
  | unsettable path => "field `" ++ path ++ "` cannot be set: the value was not passed mutably"
  | unresolved path => "field `" ++ path ++ "` does not resolve to a value"
  | assignment path e => "cannot set field `" ++ path ++ "`: " ++ e.message
  | custom message => message

/-- The error behind those that only say which annotation was being read. -/
def rootCause : Fatal → Fatal
  | malformed _ _ cause => cause.rootCause
  | e => e

end Fatal

end RecordRules

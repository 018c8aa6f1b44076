import RecordRules.Handler.Source

/-!
# Handlers

A handler gives an annotation a meaning.  It reads the text of the annotation once, and
what it reads is kept and handed to it for every field that carries that text.  For a
field it then says what is to be done: record failures, assign a literal, go into the
field or leave it alone.

Handlers read arguments of different sorts.  An argument carries its sort, so that a
handler can tell an argument that it did not read itself.  A handler may bring a sort of its
own.
-/

namespace RecordRules

/-- Whether a walk goes into the contents of a field. -/
inductive Verdict where
  | descend | skip
deriving DecidableEq, Repr

/-- Both have been said of one field; leaving it alone wins. -/
def Verdict.and : Verdict → Verdict → Verdict
  | descend, descend => descend
  | _, _ => skip

/-- The sorts of arguments that handlers read. -/
inductive ArgumentSort where
  | rule | verdict | source | literal | text
  /-- Arguments of a type that only some handlers know. -/
  | own (type : String)
deriving DecidableEq, Repr

namespace ArgumentSort

/-- What an argument of a sort is. -/
def Payload : ArgumentSort → Type
  | rule => Validator
  | verdict => Verdict
  | source => Source
  | literal => Literal
  | text => String
  | own _ => String

end ArgumentSort

/-- An argument that a handler has read. -/
structure Prepared where
  sort : ArgumentSort
  value : sort.Payload

namespace Prepared

/-- The argument as one of a sort, if it is one. -/
def as? (p : Prepared) (sort : ArgumentSort) : Option sort.Payload :=
  if h : p.sort = sort then some (h ▸ p.value) else none

end Prepared

/-- What a handler sees of a field. -/
structure FieldView where
  info : FieldInfo
  /-- The path of the field, as it is shown. -/
  path : String
  /-- The value of the field, unless the field does not show itself. -/
  value : Option Value
  /-- The value from which the walk started. -/
  root : Value
  /-- The outermost value of an enclosing validation. -/
  outer : Option Value
  /-- The walk may change the field. -/
  settable : Bool
  /-- How many failures have been recorded. -/
  failures : Nat

/-- What a handler has to say for diagnosis. -/
inductive Note where
  | parsed (value : String)
  | ran (label path : String)
  | inspected (path name : String) (settable : Bool) (value : Snapshot) (root : Kind)
      (outer : Option String) (failures : Nat)

/-- What a handler wants done with a field, in this order: notes, failures to record, a
literal to assign; and then its verdict or an error. -/
structure Reaction where
  notes : List Note := []
  failures : List Failure := []
  assign : Option Literal := none
  verdict : Except Fatal Verdict := .ok .descend

/-- A handler that needs no rulebook. -/
structure PlainHandler where
  sort : ArgumentSort
  /-- What is noted when a text is read. -/
  notes : String → List Note := fun _ => []
  parse : String → Except Fatal sort.Payload
  run : sort.Payload → FieldView → Reaction

/-- A handler. -/
inductive Handler where
  /-- Checks fields against the rule in the annotation, with the rulebook of the engine
  or with a standard one. -/
  | validate (shared : Bool)
  | plain (h : PlainHandler)

namespace FieldView

/-- The field cannot be read. -/
def unresolved (f : FieldView) : Reaction where
  verdict := .error (.unresolved f.path)

end FieldView

end RecordRules

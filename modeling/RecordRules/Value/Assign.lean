import RecordRules.Text.Blank
import RecordRules.Value.View

/-!
# Assigning literals

A literal is assigned to a value by turning it into a value of the same type, if that
loses nothing.  Behind pointers the assignment goes to the target; an absent value is
filled first, and the null literal empties an optional one.  Structures, sequences,
maps and fixed texts cannot be assigned.
-/

namespace RecordRules

/-- Why a literal cannot be assigned. -/
inductive SetError where
  | unsupported (kind : Kind)
  | mismatch (literal : Literal) (target : String)
  | overflow (literal : Literal) (target : String)
deriving DecidableEq

namespace SetError

/-- The message of the error. -/
def message : SetError → String
  | unsupported kind => "cannot assign to a value of kind " ++ kind.name
  | mismatch literal target => "cannot convert " ++ literal.describe ++ " to " ++ target
  | overflow literal target => literal.text ++ " overflows " ++ target

end SetError

namespace Literal

/-- The truth value of a literal: integers are true unless zero. -/
def toBool (l : Literal) : Except SetError Bool :=
  match l with
  | bool b => .ok b
  | int n => .ok (n.toInt != 0)
  | uint n => .ok (n.toNat != 0)
  | str s =>
    match readBool s with
    | some b => .ok b
    | none => .error (.mismatch l "bool")
  | _ => .error (.mismatch l "bool")

/-- A number within the type, or an overflow. -/
def fit (l : Literal) (t : IntType) (n : Int) : Except SetError t.Number :=
  match t.number? n with
  | some n => .ok n
  | none => .error (.overflow l t.name)

/-- The integer that a floating-point number is, below the magnitudes where not every
integer has a number of its own. -/
def exactInt? (x : Double) : Option Int :=
  match x.toInt? with
  | some n => if n.natAbs < twoTo 53 then some n else none
  | none => none

/-- The integer of a type that a literal denotes. -/
def toInteger (t : IntType) (l : Literal) : Except SetError t.Number :=
  match l with
  | int n => l.fit t n.toInt
  | uint n => l.fit t n.toNat
  | float x =>
    match exactInt? x with
    | some n => l.fit t n
    | none => .error (.mismatch l t.name)
  | str s =>
    match (readInteger t.signed (trimBlanks s.toList)).bind t.number? with
    | some n => .ok n
    | none => .error (.mismatch l t.name)
  | _ => .error (.mismatch l t.name)

/-- The floating-point number nearest to the one that a literal denotes. -/
def toBinary (f : BinaryFormat) (target : String) (l : Literal) : Except SetError (Binary f) :=
  match l with
  | int n => .ok (.ofInt n.toInt)
  | uint n => .ok (.ofInt n.toNat)
  | float x => .ok x.convert
  | str s =>
    match Binary.read? (trimBlanks s.toList) with
    | some x => .ok x
    | none => .error (.mismatch l target)
  | _ => .error (.mismatch l target)

/-- The text of a literal that is not null. -/
def toText (l : Literal) : Except SetError String :=
  match l with
  | null => .error (.mismatch l "String")
  | _ => .ok l.text

end Literal

namespace Value

/-- The result of an assignment: an error if it failed, and the value as it is left. -/
abbrev Assigned := Except SetError Unit × Value

/-- Takes the new value, or keeps the old one. -/
def adopt {α : Type} (old : Value) (make : α → Value) : Except SetError α → Assigned
  | .ok x => (.ok (), make x)
  | .error e => (.error e, old)

/-- Assigns a literal, given what assigning it to an absent value does. -/
def assignWith (fill : Content → Assigned) (l : Literal) : Value → Assigned
  | bool b => adopt (bool b) bool l.toBool
  | integer t n => adopt (integer t n) (integer t) (l.toInteger t)
  | single x => adopt (single x) single (l.toBinary .single "f32")
  | double x => adopt (double x) double (l.toBinary .double "f64")
  | text s => adopt (text s) text l.toText
  | json _ => (.ok (), json (.ofLiteral l))
  | absent content => if l = .null then (.ok (), absent content) else fill content
  | present content target =>
    if l = .null then (.ok (), absent content)
    else
      let (outcome, target) := assignWith fill l target
      (outcome, present content target)
  | boxed target =>
    let (outcome, target) := assignWith fill l target
    (outcome, boxed target)
  | v => (.error (.unsupported v.kind), v)

/-- Fills an absent value and assigns a literal to it.  What it holds may be absent in
turn, as many times as its type nests optional types. -/
def fillWith (l : Literal) : Nat → Content → Assigned
  | 0, content => (.error (.unsupported .null), absent content)
  | depth + 1, content =>
    let (outcome, target) := assignWith (fillWith l depth) l content.zero
    (outcome, present content target)

end Value

namespace Shape

/-- How deep optional types nest in a shape before anything else but pointers, at most. -/
def optionDepth : Shape → Nat
  | option content => content.optionDepth + 1
  | box content => content.optionDepth
  | _ => 0

end Shape

namespace Content

/-- More than the optional types that filling can meet: those of the shape itself, and
those of each name, which is met at most once. -/
def fillDepth (c : Content) : Nat :=
  c.types.foldl (fun depth t => depth + t.2.optionDepth + 1) (c.shape.optionDepth + 1)

end Content

namespace Value

/-- Assigns a literal to a value. -/
def set (l : Literal) (v : Value) : Assigned :=
  v.assignWith (fun content => fillWith l content.fillDepth content) l

end Value

end RecordRules

import RecordRules.Annotation.Field
import RecordRules.Failure.Basic
import RecordRules.Number.IntType
import RecordRules.Value.Json
import RecordRules.Value.Snapshot

/-!
# Values

A `Value` is a value of some field type, together with as much of its type as later
assignments need: a scalar knows its width, and an optional value knows what it may
hold, so that an absent one can be filled.  A `Shape` is a field type on its own.  Types
may be recursive through a `TypeTable`, which gives shapes names.

A map entry counts as a value too; it occurs only where checks look at the entries of a
map.
-/

namespace RecordRules

/-- A structure type: its fields in order, and the check that the type itself makes of
its values, if it has one. -/
structure RecordType where
  name : String
  fields : List FieldInfo
  selfCheck : Option (Snapshot → Outcome) := none

/-- A field type. -/
inductive Shape where
  | bool
  | integer (type : IntType)
  | single
  | double
  | text
  /-- Text that can be read but not assigned. -/
  | fixedText
  | json
  | option (content : Shape)
  | box (content : Shape)
  | seq (item : Shape)
  /-- Sequences of one length. -/
  | array (length : Nat) (item : Shape)
  | map (key value : Shape)
  | record (type : RecordType) (fields : List Shape)
  | named (name : String)

instance : Inhabited Shape := ⟨.bool⟩

/-- The shapes that names stand for. -/
abbrev TypeTable := List (String × Shape)

/-- What an optional value may hold. -/
structure Content where
  shape : Shape
  types : TypeTable := []

/-- A value of some field type. -/
inductive Value where
  | bool (value : Bool)
  | integer (type : IntType) (value : type.Number)
  | single (value : Single)
  | double (value : Double)
  | text (value : String)
  | fixedText (value : String)
  | json (value : Json)
  /-- An optional value that is not there. -/
  | absent (content : Content)
  /-- An optional value that is there. -/
  | present (content : Content) (target : Value)
  /-- A value behind a pointer of its own. -/
  | boxed (target : Value)
  | seq (items : List Value)
  | map (entries : List (Value × Value))
  | record (type : RecordType) (fields : List Value)
  | entry (key value : Value)

namespace Value

instance : Inhabited Value := ⟨.bool false⟩

/-- The value that a pointer, or a chain of them, leads to. -/
def indirect : Value → Value
  | present _ target => target.indirect
  | boxed target => target.indirect
  | v => v

end Value

namespace Shape

mutual

/-- The zero value of a shape, names being resolved by `resolve`. -/
def zeroWith (types : TypeTable) (resolve : String → Value) : Shape → Value
  | bool => .bool false
  | integer t => .integer t ⟨0, t.holds_zero⟩
  | single => .single (.zero false)
  | double => .double (.zero false)
  | text => .text ""
  | fixedText => .fixedText ""
  | json => .json .null
  | option content => .absent ⟨content, types⟩
  | box content => .boxed (zeroWith types resolve content)
  | seq _ => .seq []
  | array length item => .seq (List.replicate length (zeroWith types resolve item))
  | map _ _ => .map []
  | record type fields => .record type (zerosWith types resolve fields)
  | named name => resolve name

/-- The zero values of shapes. -/
def zerosWith (types : TypeTable) (resolve : String → Value) : List Shape → List Value
  | [] => []
  | s :: rest => zeroWith types resolve s :: zerosWith types resolve rest

end

/-- The zero value of a name, looking through at most so many names. -/
def zeroOfName (types : TypeTable) : Nat → String → Value
  | 0, _ => .json .null
  | depth + 1, name =>
    match types.find? fun t => t.1 = name with
    | some (_, s) => s.zeroWith types (zeroOfName types depth)
    | none => .json .null

/-- The zero value of a shape.  A name that stands for a shape of values is reached
through fewer names than there are. -/
def zero (types : TypeTable) (s : Shape) : Value :=
  s.zeroWith types (zeroOfName types types.length)

end Shape

namespace Content

/-- The value with which an absent one is filled before it is assigned. -/
def zero (c : Content) : Value :=
  c.shape.zero c.types

end Content

end RecordRules

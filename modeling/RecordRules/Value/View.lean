import RecordRules.Value.Basic
import RecordRules.Value.Literal

/-!
# Views

How a value looks from outside, whatever its exact type: all signed integers look alike,
and so do all texts, all sequences and all maps, a JSON document included.  A view
unfolds one level; the values inside are values again.
-/

namespace RecordRules

/-- One level of a value. -/
inductive View where
  | null
  | bool (value : Bool)
  | int (value : Int64)
  | uint (value : UInt64)
  | float (value : Double)
  | str (value : String)
  | record (type : RecordType) (fields : List Value)
  | seq (items : List Value)
  | map (entries : List (Value × Value))
  | pointer (target : Value)
  | entry (key value : Value)

/-- The sort of a view. -/
inductive Kind where
  | null | bool | int | uint | float | str | record | seq | map | pointer | entry
deriving DecidableEq, Repr

namespace Kind

/-- The name of a kind in messages. -/
def name : Kind → String
  | null => "null"
  | bool => "bool"
  | int => "int"
  | uint => "uint"
  | float => "float"
  | str => "string"
  | record => "struct"
  | seq => "sequence"
  | map => "map"
  | pointer => "pointer"
  | entry => "entry"

end Kind

namespace View

/-- The kind of a view. -/
def kind : View → Kind
  | null => .null
  | bool _ => .bool
  | int _ => .int
  | uint _ => .uint
  | float _ => .float
  | str _ => .str
  | record _ _ => .record
  | seq _ => .seq
  | map _ => .map
  | pointer _ => .pointer
  | entry _ _ => .entry

/-- The view of an integer of a type. -/
def ofInteger (t : IntType) (n : Int) : View :=
  if t.signed then .int (Int64.ofInt n) else .uint (UInt64.ofNat n.toNat)

/-- The view of a JSON document. -/
def ofJson : Json → View
  | .null => null
  | .bool b => bool b
  | .integer n =>
    if IntType.int64.Holds n.val then int (Int64.ofInt n.val) else uint (UInt64.ofNat n.val.toNat)
  | .float x => float x.val
  | .string s => str s
  | .array items => seq (items.map Value.json)
  | .object members => map (members.map fun m => (.text m.1, .json m.2))

end View

namespace Value

/-- One level of the value. -/
def view : Value → View
  | bool b => .bool b
  | integer t n => .ofInteger t n.val
  | single x => .float x.convert
  | double x => .float x
  | text s => .str s
  | fixedText s => .str s
  | json j => .ofJson j
  | absent _ => .null
  | present _ target => .pointer target
  | boxed target => .pointer target
  | seq items => .seq items
  | map entries => .map entries
  | record type fields => .record type fields
  | entry key value => .entry key value

/-- The kind of the value itself. -/
def kind (v : Value) : Kind :=
  v.view.kind

mutual

/-- The value is the zero value of its type.  A pointer that is there is not zero
whatever it leads to, and hidden fields do not count. -/
def isZero : Value → Bool
  | bool b => !b
  | integer _ n => n.val == 0
  | single x => x.isZero
  | double x => x.isZero
  | text s => s.isEmpty
  | fixedText s => s.isEmpty
  | json .null => true
  | json (.bool b) => !b
  | json (.integer n) => n.val == 0
  | json (.float x) => x.val.isZero
  | json (.string s) => s.isEmpty
  | json (.array items) => items.isEmpty
  | json (.object members) => members.isEmpty
  | absent _ => true
  | present _ _ => false
  | boxed _ => false
  | seq items => items.isEmpty
  | map entries => entries.isEmpty
  | record type fields => areZero type.fields fields
  | entry _ _ => false

/-- All fields that show are zero. -/
def areZero : List FieldInfo → List Value → Bool
  | info :: infos, v :: vs => (info.access == .hidden || v.isZero) && areZero infos vs
  | _, _ => true

end

/-- The length, after following pointers: of a text in characters, of a sequence or a
map in elements. -/
def length? (v : Value) : Option Nat :=
  match v.indirect.view with
  | .str s => some s.length
  | .seq items => some items.length
  | .map entries => some entries.length
  | _ => none

/-- The number, after following pointers, as the nearest floating-point number. -/
def number? (v : Value) : Option Double :=
  match v.indirect.view with
  | .int n => some (.ofInt n.toInt)
  | .uint n => some (.ofInt n.toNat)
  | .float x => some x
  | _ => none

/-- The text, after following pointers. -/
def string? (v : Value) : Option String :=
  match v.indirect.view with
  | .str s => some s
  | _ => none

/-- The scalar, after following pointers. -/
def literal? (v : Value) : Option Literal :=
  match v.indirect.view with
  | .null => some .null
  | .bool b => some (.bool b)
  | .int n => some (.int n)
  | .uint n => some (.uint n)
  | .float x => some (.float x)
  | .str s => some (.str s)
  | _ => none

/-- A short text for messages: scalars and pointers in full, the rest by size or name. -/
def describe : Value → String
  | present _ target => "Pointer(" ++ target.describe ++ ")"
  | boxed target => "Pointer(" ++ target.describe ++ ")"
  | entry key value => "Entry(" ++ key.describe ++ ", " ++ value.describe ++ ")"
  | v =>
    match v.view with
    | .null => "Null"
    | .bool b => "Bool(" ++ boolText b ++ ")"
    | .int n => "Int(" ++ int64Text n ++ ")"
    | .uint n => "Uint(" ++ uint64Text n ++ ")"
    | .float x => "Float(" ++ x.text ++ ")"
    | .str s => "Str(" ++ quoted s ++ ")"
    | .record type _ => "Struct(" ++ type.name ++ ")"
    | .seq items => "Seq(len=" ++ toString items.length ++ ")"
    | .map entries => "Map(len=" ++ toString entries.length ++ ")"
    | .pointer _ => "Pointer"
    | .entry _ _ => "Entry"

end Value

mutual

/-- The picture of a JSON document. -/
def Json.snapshot : Json → Snapshot
  | .null => .null
  | .bool b => .bool b
  | .integer n =>
    if IntType.int64.Holds n.val then .int (Int64.ofInt n.val) else .uint (UInt64.ofNat n.val.toNat)
  | .float x => .float x.val
  | .string s => .str s
  | .array items => .seq (Json.snapshots items)
  | .object members => .map (Json.memberSnapshots members)

/-- The pictures of JSON documents. -/
def Json.snapshots : List Json → List Snapshot
  | [] => []
  | j :: js => j.snapshot :: Json.snapshots js

/-- The pictures of the members of an object. -/
def Json.memberSnapshots : List (String × Json) → List (Snapshot × Snapshot)
  | [] => []
  | (name, j) :: members => (.str name, j.snapshot) :: Json.memberSnapshots members

end

namespace Value

mutual

/-- The picture of a value. -/
def snapshot : Value → Snapshot
  | bool b => .bool b
  | integer t n =>
    if t.signed then .int (Int64.ofInt n.val) else .uint (UInt64.ofNat n.val.toNat)
  | single x => .float x.convert
  | double x => .float x
  | text s => .str s
  | fixedText s => .str s
  | json j => j.snapshot
  | absent _ => .null
  | present _ target => .pointer target.snapshot
  | boxed target => .pointer target.snapshot
  | seq items => .seq (snapshots items)
  | map entries => .map (entrySnapshots entries)
  | record type fields => .record type.name (fieldSnapshots type.fields fields)
  | entry key value => .entry key.snapshot value.snapshot

/-- The pictures of values. -/
def snapshots : List Value → List Snapshot
  | [] => []
  | v :: vs => v.snapshot :: snapshots vs

/-- The pictures of the entries of a map. -/
def entrySnapshots : List (Value × Value) → List (Snapshot × Snapshot)
  | [] => []
  | (key, value) :: entries => (key.snapshot, value.snapshot) :: entrySnapshots entries

/-- The pictures of the fields of a structure. -/
def fieldSnapshots : List FieldInfo → List Value → List (String × Snapshot)
  | info :: infos, v :: vs =>
    (info.name, if info.access = .hidden then .hidden else v.snapshot) :: fieldSnapshots infos vs
  | _, _ => []

end

/-- The field of a structure at an index, unless it is hidden. -/
def fieldAt (type : RecordType) (fields : List Value) (index : Nat) : Option Value :=
  match type.fields[index]? with
  | some info => if info.access = .hidden then none else fields[index]?
  | none => none

/-- The field of a name in a structure, which may be behind pointers. -/
def fieldNamed? (v : Value) (name : String) : Option Value :=
  match v.indirect with
  | record type fields =>
    (type.fields.findIdx? fun info => info.name = name).bind (fieldAt type fields)
  | _ => none

end Value

end RecordRules

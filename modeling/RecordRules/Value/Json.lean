import RecordRules.Number.Binary
import RecordRules.Number.IntType
import RecordRules.Table

/-!
# JSON documents

A JSON value as a field may hold it.  An integer between the least signed and the
greatest unsigned 64-bit one is kept as an integer, every other number as a finite
floating-point number.  The members of an object are in the order of their names.
-/

namespace RecordRules

/-- The number is neither infinite nor `nan`. -/
def Binary.isFinite {f : BinaryFormat} : Binary f → Bool
  | .finite .. => true
  | _ => false

/-- The integers that JSON documents keep as integers. -/
abbrev JsonInteger := { n : Int // IntType.int64.least ≤ n ∧ n ≤ IntType.uint64.greatest }

/-- The floating-point numbers that JSON documents can hold. -/
abbrev JsonFloat := { x : Double // x.isFinite = true }

/-- A JSON value. -/
inductive Json where
  | null
  | bool (value : Bool)
  | integer (value : JsonInteger)
  | float (value : JsonFloat)
  | string (value : String)
  | array (items : List Json)
  | object (members : List (String × Json))

namespace Json

instance : Inhabited Json := ⟨null⟩

/-- A number without point and exponent. -/
def ofInt (n : Int) : Json :=
  if fits : IntType.int64.least ≤ n ∧ n ≤ IntType.uint64.greatest then .integer ⟨n, fits⟩
  else
    let x : Double := .ofInt n
    if finite : x.isFinite = true then .float ⟨x, finite⟩ else .null

/-- A floating-point number; what JSON cannot write is null. -/
def ofDouble (x : Double) : Json :=
  if finite : x.isFinite = true then .float ⟨x, finite⟩ else .null

/-- An object; of two members with one name the later one counts. -/
def ofMembers (members : List (String × Json)) : Json :=
  .object (Table.ofList members).entries

/-- The value of a member of an object. -/
def member? (j : Json) (name : String) : Option Json :=
  match j with
  | object members => (members.find? fun m => m.1 = name).map Prod.snd
  | _ => none

end Json

end RecordRules

import RecordRules.Annotation.Field
import RecordRules.Text.Blank

/-!
# Declarations of structure types

A structure type is declared with attributes: on a field, its annotation or the wish to
leave it out; on the type, the wish that it checks itself.  `Declaration.describe` makes
the description of the type from that: which fields show, under which name and with which
annotation, and through which member of the structure each of them is reached.

A description becomes three tables of the structure type: one of what is known about the fields,
and one each for reading and for changing a field.  The latter two have a case for every index
from zero on, with the members of the described fields in order.
-/

namespace RecordRules

/-- What stands in the parentheses of an annotation attribute, if it has any. -/
inductive TagArgument where
  | text (value : String)
  | other
deriving DecidableEq, Repr

/-- An attribute of a type or a field. -/
inductive Attribute where
  | tag (argument : TagArgument)
  /-- Flags in parentheses. -/
  | flags (names : List String)
  /-- The attribute for flags without a list of them. -/
  | noFlags
  | unrelated
deriving DecidableEq, Repr

/-- What can be declared. -/
inductive DeclarationShape where
  | named | tuple | unit | enumeration | union
deriving DecidableEq, Repr

/-- A parameter of a type. -/
inductive TypeParameter where
  | type (name : String)
  | lifetime (name : String)
  | const (name : String)
deriving DecidableEq, Repr

/-- A field as it is declared; in a tuple it has no name. -/
structure FieldDeclaration where
  name : Option String
  exported : Bool
  attributes : List Attribute
deriving DecidableEq, Repr

/-- A type as it is declared. -/
structure Declaration where
  name : String
  shape : DeclarationShape
  attributes : List Attribute
  parameters : List TypeParameter
  fields : List FieldDeclaration
deriving DecidableEq, Repr

/-- A field that shows, and the member of the structure that holds it. -/
structure DescribedField where
  info : FieldInfo
  member : String
deriving DecidableEq

/-- The description of a structure type. -/
structure Description where
  typeName : String
  fields : List DescribedField
  /-- The type checks itself. -/
  selfValidate : Bool
  /-- The type parameters whose values must show their fields too. -/
  bounded : List String
deriving DecidableEq

/-- Why a declaration has no description. -/
inductive DeclarationError where
  | unknownFlag (flag : String) (allowed : List String)
  | flagsExpected
  | textExpected
  | noStructure
  | lifetimeParameter
deriving DecidableEq, Repr

namespace DeclarationError

/-- The message of the error. -/
def message : DeclarationError → String
  | unknownFlag flag allowed =>
    "unknown flag `" ++ flag ++ "`, expected one of: " ++ ", ".intercalate allowed
  | flagsExpected => "expected #[reflect(...)]"
  | textExpected => "expected #[tag(\"...\")]"
  | noStructure => "Reflect derive can only be used on structs"
  | lifetimeParameter => "Reflect derive does not support lifetime parameters"

end DeclarationError

namespace Declaration

/-- The flags of all attributes together. -/
def flags : List Attribute → Except DeclarationError (List String)
  | [] => .ok []
  | .flags names :: rest => (flags rest).map (names ++ ·)
  | .noFlags :: _ => .error .flagsExpected
  | _ :: rest => flags rest

/-- The flags of all attributes, if only allowed ones are among them. -/
def allowedFlags (allowed : List String) (attributes : List Attribute) :
    Except DeclarationError (List String) := do
  let names ← flags attributes
  match names.find? fun name => name ∉ allowed with
  | some unknown => throw (.unknownFlag unknown allowed)
  | none => return names

/-- The texts of all annotation attributes, without blanks at the ends; blank ones do not
count. -/
def tagParts : List Attribute → Except DeclarationError (List (List Char))
  | [] => .ok []
  | .tag (.text value) :: rest => do
    let parts ← tagParts rest
    let part := trimBlanks value.toList
    return if part.isEmpty then parts else part :: parts
  | .tag .other :: _ => .error .textExpected
  | _ :: rest => tagParts rest

/-- The annotation of a field: its parts with a space between them. -/
def tagOf (attributes : List Attribute) : Except DeclarationError String := do
  return " ".intercalate ((← tagParts attributes).map String.ofList)

/-- A name without the mark of a name that would otherwise be a keyword. -/
def plainName (name : String) : String :=
  match name.toList with
  | 'r' :: '#' :: rest => String.ofList rest
  | _ => name

/-- The fields that show, from a position in the declaration on. -/
def describeFields : Nat → List FieldDeclaration → Except DeclarationError (List DescribedField)
  | _, [] => .ok []
  | position, field :: rest => do
    let names ← allowedFlags ["skip"] field.attributes
    if "skip" ∈ names then describeFields (position + 1) rest
    else
      let member := field.name.getD (toString position)
      let tag ← tagOf field.attributes
      let info : FieldInfo := { name := plainName member, tag := tag, exported := field.exported }
      return ⟨info, member⟩ :: (← describeFields (position + 1) rest)

/-- The names of the type parameters proper; lifetimes are refused. -/
def boundedParameters (parameters : List TypeParameter) : Except DeclarationError (List String) :=
  if parameters.any fun p => p matches .lifetime _ then .error .lifetimeParameter
  else .ok <| parameters.filterMap fun p => match p with
    | .type name => some name
    | _ => none

/-- Structures have fields; the other types do not, in this sense. -/
def isStructure : DeclarationShape → Bool
  | .named | .tuple | .unit => true
  | .enumeration | .union => false

/-- The description of a declared type. -/
def describe (d : Declaration) : Except DeclarationError Description := do
  let names ← allowedFlags ["self_validate"] d.attributes
  if !isStructure d.shape then throw .noStructure
  let fields ← describeFields 0 d.fields
  let bounded ← boundedParameters d.parameters
  return { typeName := d.name, fields, selfValidate := "self_validate" ∈ names, bounded }

end Declaration

/-! ## Access to described fields -/

/-- The member of a structure that holds a field: its name, or its position in the declaration. -/
def FieldDeclaration.member (field : FieldDeclaration) (position : Nat) : String :=
  field.name.getD (toString position)

namespace Declaration

/-- The members of a structure, in the order of the declaration. -/
def memberNames (d : Declaration) : List String :=
  d.fields.zipIdx.map fun (field, position) => field.member position

/-- The members of a structure with what they hold. -/
def holding {α : Type} (d : Declaration) (values : List α) : List (String × α) :=
  d.memberNames.zip values

end Declaration

namespace Description

/-- The table of what is known about the fields. -/
def infos (d : Description) : List FieldInfo :=
  d.fields.map DescribedField.info

/-- The cases of an accessor: an index, and the member that it stands for. -/
def cases (d : Description) : List (Nat × String) :=
  (List.range d.fields.length).zip (d.fields.map DescribedField.member)

/-- The member of the first case for an index. -/
def memberAt (d : Description) (index : Nat) : Option String :=
  (d.cases.find? fun case => case.1 = index).map Prod.snd

variable {α : Type}

/-- What the member for an index holds. -/
def read (d : Description) (members : List (String × α)) (index : Nat) : Option α := do
  let member ← d.memberAt index
  let held ← members.find? fun held => held.1 = member
  return held.2

/-- What the member for an index holds, and the structure as it is once something else has been
put there. -/
def access (d : Description) (members : List (String × α)) (index : Nat) :
    Option (α × (α → List (String × α))) := do
  let member ← d.memberAt index
  let held ← members.find? fun held => held.1 = member
  return (held.2, fun value =>
    members.map fun held => if held.1 = member then (member, value) else held)

end Description

end RecordRules

import RecordRules.Annotation.Pairs

/-!
# Fields

What is known about a field of a structure apart from its value.
-/

namespace RecordRules

/-- Whether a field can be reached from outside. -/
inductive Access where
  | full
  | readOnly
  | hidden
deriving DecidableEq, Repr

/-- A field of a structure type. -/
structure FieldInfo where
  name : String
  /-- The annotation of the field. -/
  tag : String := ""
  /-- Fields that are not exported are left alone by walks. -/
  exported : Bool := true
  access : Access := .full
deriving DecidableEq

namespace FieldInfo

/-- The value of the first entry of a name in the field's annotation. -/
def lookup (info : FieldInfo) (key : String) : Option String :=
  ((annotationPairs info.tag).find? fun pair => pair.name = key).map Pair.value

end FieldInfo

end RecordRules

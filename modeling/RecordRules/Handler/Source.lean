import RecordRules.Failure.Fatal
import RecordRules.Text.Pieces

/-!
# Sources of assigned values

An annotation that assigns a value gives it as a text, or, with a point in front, as the
names of the fields that lead to a scalar below the root.
-/

namespace RecordRules

/-- Where an assigned value comes from. -/
inductive Source where
  | text (value : String)
  | path (segments : List String)
deriving DecidableEq, Repr

namespace Source

/-- The source that an annotation gives. -/
def parse (value : String) : Except Fatal Source :=
  match value.toList with
  | '.' :: rest =>
    let segments := piecesAt '.' rest
    if segments.any List.isEmpty then
      .error (.custom ("malformed field path " ++ quoted value))
    else .ok (.path (segments.map String.ofList))
  | _ => .ok (.text value)

/-- The value to which the names of fields lead. -/
def follow : List String → Value → Option Value
  | [], v => some v
  | name :: names, v => (v.fieldNamed? name).bind (follow names)

/-- The scalar that a source gives, for a root. -/
def resolve (root : Value) : Source → Except Fatal Literal
  | text value => .ok (.str value)
  | path segments =>
    match (follow segments root).bind Value.literal? with
    | some l => .ok l
    | none =>
      .error (.custom ("path ." ++ ".".intercalate segments ++ " does not lead to a scalar"))

end Source

end RecordRules

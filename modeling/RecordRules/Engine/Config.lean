import RecordRules.Text.Quoted
import RecordRules.Value.Literal

/-!
# Configuration

Which annotations an engine reads for what.
-/

namespace RecordRules

/-- The settings of an engine. -/
structure Config where
  /-- The annotation that holds a validation rule. -/
  validateTag : String := "validate"
  /-- The annotation that gives fields their display names, if any does. -/
  nameTag : Option String := some "json"
  /-- The annotation that says whether a walk goes into a field. -/
  walkTag : String := "walk"
  /-- Nested structures run their own checks once their fields pass. -/
  selfValidate : Bool := true
deriving DecidableEq, Repr

namespace Config

/-- A short text for messages. -/
def describe (c : Config) : String :=
  let nameTag := match c.nameTag with
    | some tag => "Some(" ++ quoted tag ++ ")"
    | none => "None"
  "Config \x7b validate_tag: " ++ quoted c.validateTag ++ ", name_tag: " ++ nameTag ++
    ", walk_tag: " ++ quoted c.walkTag ++ ", self_validate: " ++ boolText c.selfValidate ++ " \x7d"

/-- The settings in one document each; one that is missing keeps its default. -/
def ofParts? (validateTag nameTag walkTag selfValidate : Option Json) : Option Config := do
  let defaults : Config := {}
  let validateTag ← match validateTag with
    | none => some defaults.validateTag
    | some (.string tag) => some tag
    | some _ => none
  let nameTag ← match nameTag with
    | none => some defaults.nameTag
    | some .null => some none
    | some (.string tag) => some (some tag)
    | some _ => none
  let walkTag ← match walkTag with
    | none => some defaults.walkTag
    | some (.string tag) => some tag
    | some _ => none
  let selfValidate ← match selfValidate with
    | none => some defaults.selfValidate
    | some (.bool enabled) => some enabled
    | some _ => none
  return { validateTag, nameTag, walkTag, selfValidate }

/-- The settings in a document: an object, whose other members do not count, or a list of
at most four values. -/
def ofJson? : Json → Option Config
  | .object members =>
    let member := (Json.object members).member?
    ofParts? (member "validate_tag") (member "name_tag") (member "walk_tag")
      (member "self_validate")
  | .array items =>
    if items.length ≤ 4 then ofParts? items[0]? items[1]? items[2]? items[3]? else none
  | _ => none

end Config

end RecordRules

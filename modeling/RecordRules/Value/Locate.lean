import RecordRules.Value.Assign
import RecordRules.Value.Path

/-!
# Following steps

`Value.resolve` reads the value to which steps lead, and `Value.update` changes it in
place.  Reading looks at views; changing also needs the way to be open for changes, and
it never enters maps.
-/

namespace RecordRules.Value

/-- The value one step away. -/
def follow (v : Value) (step : Step) : Option Value :=
  match step, v.view with
  | .field index, .record type fields => fieldAt type fields index
  | .index index, .seq items => items[index]?
  | .deref, .pointer target => some target
  | _, _ => none

/-- The value to which steps lead. -/
def resolve : List Step → Value → Option Value
  | [], v => some v
  | step :: steps, v => (v.follow step).bind (resolve steps)

/-- The field at an index may be changed. -/
def isChangeable (type : RecordType) (index : Nat) : Bool :=
  match type.fields[index]? with
  | some info => info.access == .full
  | none => false

/-- Changes the value to which steps lead, with a result.  Nothing is found where a step
does not fit, and where a field may not be changed. -/
def update {α : Type} (change : Value → α × Value) : List Step → Value → Option (α × Value)
  | [], v => some (change v)
  | .field index :: steps, record type fields =>
    if isChangeable type index then
      (fields[index]?).bind fun field =>
        (update change steps field).map fun (a, field) => (a, record type (fields.set index field))
    else none
  | .index index :: steps, seq items =>
    (items[index]?).bind fun item =>
      (update change steps item).map fun (a, item) => (a, seq (items.set index item))
  | .index index :: steps, json (.array items) =>
    (items[index]?).bind fun item =>
      (update change steps (json item)).map fun (a, changed) =>
        match changed with
        | json item => (a, json (.array (items.set index item)))
        | _ => (a, json (.array items))
  | .deref :: steps, present content target =>
    (update change steps target).map fun (a, target) => (a, present content target)
  | .deref :: steps, boxed target =>
    (update change steps target).map fun (a, target) => (a, boxed target)
  | _ :: _, _ => none

end RecordRules.Value

import RecordRules.Engine.Validate
import RecordRules.Proofs.Value.Parts

/-!
# Inspections

What the validation of a structure finds, by recursion on its value and with nothing
else: no paths to look values up with, no state and no counting.

* A `Report` holds the failures that were found, in order, with the places they belong
  to, and how the inspection ended.
* `Reading.content` inspects what a value holds, given how nested structures are to be
  validated; a structure inside another one makes its own check if nothing is reported
  of its fields.
* `Reading.nested` validates a nested structure, which starts an inspection of its
  own.  It gets to nested structures only, so that it is well founded.
* `Reading.inspect` inspects a value and says what is wrong with it.

All of them make checks with effects `m`: a journal, errors of their own, or none.
-/

namespace RecordRules

/-! ## Reports -/

/-- The failures that were found, and a result or the error that ended the inspection. -/
structure Report (α : Type) where
  recorded : List (String × Failure)
  result : Except Fatal α

/-- An inspection with effects `m`. -/
def Inspect (m : Type → Type) (α : Type) : Type :=
  m (Report α)

namespace Inspect

variable {m : Type → Type} [Monad m] {α β : Type}

/-- The effects, with the report. -/
def run (x : Inspect m α) : m (Report α) := x

/-- An inspection from its effects. -/
def mk (x : m (Report α)) : Inspect m α := x

instance : Monad (Inspect m) where
  pure a := mk (pure ⟨[], .ok a⟩)
  bind x f := mk do
    let first ← x.run
    match first.result with
    | .ok a =>
      let second ← (f a).run
      return ⟨first.recorded ++ second.recorded, second.result⟩
    | .error e => return ⟨first.recorded, .error e⟩

theorem run_bind (x : Inspect m α) (f : α → Inspect m β) :
    (x >>= f).run = do
      let first ← x.run
      match first.result with
      | .ok a =>
        let second ← (f a).run
        return ⟨first.recorded ++ second.recorded, second.result⟩
      | .error e => return ⟨first.recorded, .error e⟩ :=
  rfl

/-- Ends the inspection. -/
def fail (e : Fatal) : Inspect m α :=
  mk (pure ⟨[], .error e⟩)

/-- Reports a failure. -/
def note (path : String) (e : Failure) : Inspect m Unit :=
  mk (pure ⟨[(path, e)], .ok ()⟩)

/-- Reports a failure, if there is one. -/
def report (path : String) : Outcome → Inspect m Unit
  | .ok () => pure ()
  | .error e => note path e

/-- Does something that reports nothing. -/
def perform (x : m α) : Inspect m α :=
  mk do return ⟨[], .ok (← x)⟩

/-- Inspects only under a condition. -/
def when (c : Prop) [Decidable c] (x : Inspect m Unit) : Inspect m Unit :=
  if c then x else pure ()

/-- Inspects, and tells whether nothing was reported. -/
def clean (x : Inspect m Unit) : Inspect m Bool :=
  mk do
    let report ← x.run
    return ⟨report.recorded, report.result.map fun _ => report.recorded.isEmpty⟩

end Inspect

/-- Failures at their places, those of fields at the places of the fields. -/
def Failures.collect (recorded : List (String × Failure)) : Failures :=
  recorded.foldl (fun fs entry => fs.record entry.1 entry.2) {}

/-! ## Inspections -/

/-- How annotations are read. -/
structure Reading where
  config : Config
  /-- The validator of a rule. -/
  meaning : String → Except BuildError Validator

/-- The place of a field below a place. -/
def below (path segment : String) : String :=
  if path.isEmpty then segment else path ++ "." ++ segment

/-- The value of a field, unless the field does not show itself. -/
def FieldInfo.shown (info : FieldInfo) (v : Value) : Option Value :=
  if info.access = .hidden then none else some v

/-- What validating a value as a structure gives if it is none: absent values pass. -/
def Value.noStructure (v : Value) : Outcome :=
  match v.view with
  | .null => .ok ()
  | view => .error (.unsupported "structure" view.kind.name)

/-- The value is a structure. -/
def Value.isRecord : Value → Bool
  | record _ _ => true
  | _ => false

namespace Reading

section content

variable {m : Type → Type} [Monad m] (reading : Reading) (r : Validator.Runner m) (root : Value)

/-- Checks a value against a validator, whose failure is reported. -/
def verify (path : String) (validator : Validator) : Option Value → Inspect m Verdict
  | none => .fail (.unresolved path)
  | some v => do
    let outcome ← Inspect.perform (validator.run r (some root) v)
    Inspect.report path outcome
    return if validator.descends then .skip else .descend

/-- Follows an entry of an annotation, for a field and its value. -/
def followPair (path : String) (value : Option Value) (pair : Pair) : Inspect m Verdict :=
  if pair.name = reading.config.walkTag then
    match PlainHandler.parseVerdict pair.value with
    | .ok verdict => pure verdict
    | .error e => .fail (.malformed pair.name pair.value e)
  else if pair.name = reading.config.validateTag then
    match reading.meaning pair.value with
    | .ok validator => verify r root path validator value
    | .error e => .fail (.malformed pair.name pair.value (.rule e))
  else pure .descend

/-- Follows the entries of an annotation. -/
def follow (path : String) (value : Option Value) : List Pair → Inspect m Verdict
  | [] => pure .descend
  | pair :: pairs => do
    let verdict ← followPair reading r root path value pair
    return verdict.and (← follow path value pairs)

/-- Inspects a field: follows its annotation and then, unless an entry says not to, goes into
its value.  Fields that are not exported are left alone. -/
def field (path : String) (info : FieldInfo) (value : Option Value) (enter : Inspect m Unit) :
    Inspect m Unit :=
  if info.exported then do
    let verdict ← follow reading r root path value (annotationPairs info.tag)
    Inspect.when (verdict = .descend ∧ value.isSome) enter
  else pure ()

/-- Inspects fields that have no values. -/
def absentFields (path : String) : List FieldInfo → Inspect m Unit
  | [] => pure ()
  | info :: infos => do
    field reading r root (below path (Walk.segment reading.config info)) info none (pure ())
    absentFields path infos

mutual

/-- Inspects what a value at a place holds; structures inside another one make their own
check. -/
def content (inner : Bool) (path : String) : Value → Inspect m Unit
  | .present _ target => content inner path target
  | .boxed target => content inner path target
  | .record type values => do
    let clean ← (fields path type.fields values).clean
    Inspect.when (inner && reading.config.selfValidate && clean) <|
      Inspect.report path (Value.record type values).selfCheck
  | .seq items => elements path 0 items
  | _ => pure ()

/-- Inspects the fields of a structure. -/
def fields (path : String) : List FieldInfo → List Value → Inspect m Unit
  | [], _ => pure ()
  | info :: infos, [] => absentFields reading r root path (info :: infos)
  | info :: infos, v :: vs => do
    let place := below path (Walk.segment reading.config info)
    field reading r root place info (info.shown v) (content true place v)
    fields path infos vs

/-- Inspects those elements of a sequence that are structures. -/
def elements (path : String) (index : Nat) : List Value → Inspect m Unit
  | [] => pure ()
  | item :: items => do
    Inspect.when item.indirect.isRecord <|
      content true (path ++ "[" ++ toString index ++ "]") item
    elements path (index + 1) items

end

end content

section validation

variable {m : Type → Type} [Monad m]

/-- What making a check does, and what becomes of a nested structure whose inspection is
ended by an error. -/
structure Effects (m : Type → Type) where
  check : Check → Option Value → Value → m Outcome
  interrupted : Fatal → m Outcome

/-- Validates a structure on its own: its fields, and if they pass, the structure itself. -/
def alone (reading : Reading) (r : Validator.Runner m) (interrupted : Fatal → m Outcome)
    (outer : Option Value) (type : RecordType) (values : List Value) : m Outcome := do
  let target := Value.record type values
  let report ← (content reading r (outer.getD target) false "" target).run
  match report.result with
  | .error e => interrupted e
  | .ok () =>
    let failures := Failures.collect report.recorded
    if failures.size = 0 then return target.selfCheck else return .error (.nested failures)

/-- Validates a nested structure, which may be behind pointers or absent. -/
def nested (reading : Reading) (effects : Effects m) (outer : Option Value) (v : Value) :
    m Outcome :=
  match _leads : v.indirect with
  | .record type values =>
    alone reading
      { check := effects.check
        nested := fun outer u =>
          if _smaller : u.weight < (Value.record type values).depth then
            reading.nested effects outer u
          else pure (.ok ()) }
      effects.interrupted outer type values
  | other => pure other.noStructure
termination_by v.weight
decreasing_by exact Nat.lt_of_lt_of_le _smaller (Value.depth_le_weight _leads)

/-- Inspects a value and says why it does not pass. -/
def inspect (reading : Reading) (effects : Effects m) (v : Value) : m (Except Refusal Unit) := do
  let report ← (content reading ⟨effects.check, reading.nested effects⟩ v false "" v).run
  match report.result with
  | .error e => return .error (.fatal e)
  | .ok () =>
    let failures := Failures.collect report.recorded
    if failures.size = 0 then return .ok () else return .error (.fields failures)

end validation

end Reading

end RecordRules

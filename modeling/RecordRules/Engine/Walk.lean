import RecordRules.Engine.Basic
import RecordRules.Value.Locate

/-!
# Walks

A walk goes through the exported fields of a structure in order.  For each field it runs
the handlers of the field's annotations, and then, unless one of them said to leave the
field alone, it goes on into what the field holds: nested structures, targets of
pointers, and elements of sequences that are structures.

Fields are addressed by their path from the root.  A walk keeps the root in its state and
looks fields up whenever it needs them, since a handler may have changed them.
-/

namespace RecordRules

namespace Value

mutual

/-- How deep structures, containers and pointers nest in a value. -/
def depth : Value → Nat
  | present _ target => target.depth + 1
  | boxed target => target.depth + 1
  | seq items => greatestDepth items + 1
  | map entries => greatestEntryDepth entries + 1
  | record _ fields => greatestDepth fields + 1
  | entry key value => max key.depth value.depth + 1
  | _ => 0

/-- The greatest depth in a list. -/
def greatestDepth : List Value → Nat
  | [] => 0
  | v :: vs => max v.depth (greatestDepth vs)

/-- The greatest depth in a list of entries. -/
def greatestEntryDepth : List (Value × Value) → Nat
  | [] => 0
  | (key, value) :: entries => max (max key.depth value.depth) (greatestEntryDepth entries)

end

end Value

/-- The check that the type of a structure makes of it. -/
def Value.selfCheck (v : Value) : Outcome :=
  match v with
  | .record type _ =>
    match type.selfCheck with
    | some check => check v.snapshot
    | none => .ok ()
  | _ => .ok ()

/-- What stays the same during a walk. -/
structure WalkSetting where
  registry : RegistryName
  /-- Handlers may change fields. -/
  settable : Bool
  /-- The outermost value of an enclosing validation. -/
  outer : Option Value
  /-- Nested structures run their own checks once their fields pass. -/
  selfValidate : Bool
  /-- The validation of a nested structure. -/
  nested : Option Value → Value → Work Outcome

/-- What a walk changes: the workspace, the value that is walked, and the failures with
the number of times that one was recorded. -/
structure WalkState where
  work : Workspace
  root : Value
  failures : Failures := {}
  recorded : Nat := 0

/-- A walk; it may end early. -/
abbrev Walk := ExceptT Fatal (StateM WalkState)

namespace Walk

/-- Does work with the engine. -/
def work {α : Type} (action : Work α) : Walk α := do
  let state ← get
  let (result, workspace) := action.run state.work
  set { state with work := workspace }
  return result

/-- The configuration of the engine. -/
def config : Walk Config := do
  return (← get).work.engine.config

/-- Records a failure at a path. -/
def record (path : String) (e : Failure) : Walk Unit :=
  modify fun state =>
    { state with failures := state.failures.record path e, recorded := state.recorded + 1 }

/-- The value at a path. -/
def resolve (path : FieldPath) : Walk (Option Value) := do
  return (← get).root.resolve path.steps

/-- Assigns a literal to the field at a path. -/
def assign (s : WalkSetting) (path : FieldPath) (l : Literal) : Walk Unit := do
  if !s.settable then throw (.unsettable path.name)
  let state ← get
  match state.root.update (Value.set l) path.steps with
  | none => throw (.unresolved path.name)
  | some (outcome, root) =>
    set { state with root }
    match outcome with
    | .ok () => pure ()
    | .error e => throw (.assignment path.name e)

/-- Checks the field at a path. -/
def validateField (s : WalkSetting) (path : FieldPath) (v : Validator) : Walk Verdict := do
  match ← resolve path with
  | none => throw (.unresolved path.name)
  | some value =>
    let root := s.outer.getD (← get).root
    match ← work (v.run ⟨Work.check, s.nested⟩ (some root) value) with
    | .ok () => pure ()
    | .error e => record path.name e
    return if v.descends then .skip else .descend

/-- Does what a handler wants done with the field at a path. -/
def react (s : WalkSetting) (path : FieldPath) (reaction : Reaction) : Walk Verdict := do
  work (modify fun w => { w with notes := reaction.notes.reverse ++ w.notes })
  reaction.failures.forM (record path.name)
  match reaction.assign with
  | some l => assign s path l
  | none => pure ()
  reaction.verdict

/-- Reads the text of an annotation with a handler. -/
def parseArgument (value : String) : Handler → Walk Prepared
  | .validate true => do
    match ← work (Work.build value) with
    | .ok handle => return ⟨.rule, handle.validator⟩
    | .error e => throw (.rule e)
  | .validate false => do
    match (Rulebook.standard.build value).1 with
    | .ok handle => return ⟨.rule, handle.validator⟩
    | .error e => throw (.rule e)
  | .plain h => do
    work (modify fun w => { w with notes := (h.notes value).reverse ++ w.notes })
    match h.parse value with
    | .ok payload => return ⟨h.sort, payload⟩
    | .error e => throw e

/-- The argument of an annotation: what is remembered for its text, or what the handler
reads now, which is remembered if it succeeds. -/
def argumentOf (s : WalkSetting) (h : Handler) (pair : Pair) : Walk Prepared := do
  let key := (pair.name, pair.quoted)
  match ((← get).work.engine.registryNamed s.registry).arguments.get? key with
  | some argument => return argument
  | none =>
    let argument ← tryCatch (parseArgument pair.value h) fun cause =>
      throw (.malformed pair.name pair.value cause)
    work (modify fun w =>
      { w with engine := w.engine.rememberArgument s.registry key argument })
    return argument

/-- The argument was read by a handler of another sort. -/
def mismatch {α : Type} (info : FieldInfo) : Walk α :=
  throw (.custom ("cached argument for `" ++ info.name ++ "` does not match its handler"))

/-- Runs a handler for the field at a path. -/
def runHandler (s : WalkSetting) (path : FieldPath) (info : FieldInfo) (h : Handler)
    (argument : Prepared) : Walk Verdict := do
  match h with
  | .validate _ =>
    match argument.as? .rule with
    | some v => validateField s path v
    | none => mismatch info
  | .plain h =>
    match argument.as? h.sort with
    | some payload =>
      let state ← get
      react s path <| h.run payload {
        info
        path := path.name
        value := state.root.resolve path.steps
        root := state.root
        outer := s.outer
        settable := s.settable
        failures := state.failures.size }
    | none => mismatch info

/-- Runs the handlers of annotations, in order, for the field at a path.  Annotations
without a handler do not count. -/
def dispatch (s : WalkSetting) (path : FieldPath) (info : FieldInfo) : List Pair → Walk Verdict
  | [] => return .descend
  | pair :: pairs => do
    let verdict ←
      match ((← get).work.engine.registryNamed s.registry).handlers.get? pair.name with
      | none => pure .descend
      | some h => do runHandler s path info h (← argumentOf s h pair)
    return verdict.and (← dispatch s path info pairs)

/-- The name under which a field is shown: what its naming annotation says, or its own. -/
def segment (config : Config) (info : FieldInfo) : String :=
  ((config.nameTag.bind info.lookup).bind displayName).getD info.name

/-- Walks the fields of the structure at a path, given how to go on into one. -/
def walkFields (s : WalkSetting) (descend : FieldPath → Walk Unit) (path : FieldPath) :
    Nat → List FieldInfo → Walk Unit
  | _, [] => return
  | index, info :: infos => do
    if info.exported then
      let field := path.pushField index (segment (← config) info)
      if (← dispatch s field info (annotationPairs info.tag)) = .descend then
        descend field
    walkFields s descend path (index + 1) infos

/-- Walks those elements of the sequence at a path that are structures. -/
def walkItems (descend : FieldPath → Walk Unit) (path : FieldPath) : List Nat → Walk Unit
  | [] => return
  | index :: indices => do
    let item := path.pushIndex index
    match (← resolve item).map Value.indirect with
    | some (.record _ _) => descend item
    | _ => pure ()
    walkItems descend path indices

/-- Runs the own check of the structure at a path, if this is asked for, the structure is
below the root, and nothing has been recorded since. -/
def selfValidate (s : WalkSetting) (path : FieldPath) (before : Nat) : Walk Unit := do
  if s.selfValidate && !path.name.isEmpty && (← get).recorded = before then
    match ← resolve path with
    | some v =>
      match v.selfCheck with
      | .ok () => pure ()
      | .error e => record path.name e
    | none => pure ()

/-- Walks what is at a path, at most so many levels deep. -/
def descend (s : WalkSetting) : Nat → FieldPath → Walk Unit
  | 0, _ => return
  | levels + 1, path => do
    match (← resolve path).map Value.view with
    | some (.record type _) => do
      let before := (← get).recorded
      walkFields s (descend s levels) path 0 type.fields
      selfValidate s path before
    | some (.pointer _) => descend s levels path.pushDeref
    | some (.seq items) => walkItems (descend s levels) path (List.range items.length)
    | _ => return

end Walk

/-- What a walk leaves behind. -/
structure WalkResult where
  outcome : Except Fatal Unit
  root : Value
  failures : Failures

/-- Walks a value. -/
def walkValue (s : WalkSetting) (v : Value) : Work WalkResult := do
  let (outcome, state) := (Walk.descend s v.depth .root).run.run { work := ← get, root := v }
  set state.work
  return ⟨outcome, state.root, state.failures⟩

/-- Validates a nested structure: its fields, and if they pass, the structure itself.
Values that are absent pass.  Structures in structures are validated at most so many
levels deep. -/
def validateNestedWithin : Nat → Option Value → Value → Work Outcome
  | levels, root, v => do
    match v.indirect with
    | .record type fields =>
      match levels with
      | 0 => return .ok ()
      | levels + 1 =>
        let target := Value.record type fields
        let result ← walkValue
          { registry := .validation
            settable := false
            outer := root
            selfValidate := (← get).engine.config.selfValidate
            nested := validateNestedWithin levels } target
        match result.outcome with
        | .error e => return .error { code := e.code, message := e.message }
        | .ok () =>
          if result.failures.size = 0 then return target.selfCheck
          else return .error (.nested result.failures)
    | other =>
      match other.view with
      | .null => return .ok ()
      | view => return .error (.unsupported "structure" view.kind.name)

end RecordRules

import RecordRules.Engine.Walk

/-!
# Working with an engine

What can be asked of an engine: whether a value obeys a rule, whether the annotated
fields of a structure obey theirs, and walks with all handlers.
-/

namespace RecordRules

/-- Why a value did not pass. -/
inductive Refusal where
  | fatal (e : Fatal)
  | invalid (e : Failure)
  | fields (failures : Failures)

namespace Engine

/-- Validates a nested structure; validators below it see the root. -/
def validateNested (root : Option Value) (v : Value) : Work Outcome :=
  validateNestedWithin v.depth root v

/-- Runs a validator. -/
def run (validator : Validator) (root : Option Value) (v : Value) : Work Outcome :=
  validator.run ⟨Work.check, validateNestedWithin v.depth⟩ root v

/-- Checks a value against a rule; the value is the root. -/
def validate (v : Value) (rule : String) : Work (Except Refusal Unit) := do
  match ← Work.build rule with
  | .error e => return .error (.fatal (.rule e))
  | .ok handle =>
    match ← run handle.validator (some v) v with
    | .ok () => return .ok ()
    | .error e => return .error (.invalid e)

/-- A walk with a registry of the engine. -/
def walkWith (registry : RegistryName) (settable selfValidate : Bool) (outer : Option Value)
    (v : Value) : Work WalkResult :=
  walkValue { registry, settable, selfValidate, outer, nested := validateNestedWithin v.depth } v

/-- Validates the annotated fields of a structure. -/
def validateStruct (v : Value) : Work (Except Refusal Unit) := do
  let result ← walkWith .validation false (← get).engine.config.selfValidate none v
  match result.outcome with
  | .error e => return .error (.fatal e)
  | .ok () =>
    if result.failures.size = 0 then return .ok () else return .error (.fields result.failures)

/-- A walk with all handlers, which may or may not change the value. -/
def walk (settable : Bool) (v : Value) : Work WalkResult := do
  walkWith .full settable (← get).engine.config.selfValidate none v

/-- Registers a handler for all walks but those of validation. -/
def register (name : String) (h : Handler) : Work Unit :=
  modify fun w =>
    { w with engine := { w.engine with registry := w.engine.registry.register name h } }

/-- Takes the handler of a name away from these walks, and tells whether there was one. -/
def unregister (name : String) : Work Bool := do
  let w ← get
  set { w with engine := { w.engine with registry := w.engine.registry.unregister name } }
  return w.engine.registry.handlers.contains name

/-- The engine that is there without being made. -/
def shared : Engine :=
  new {}

end Engine

end RecordRules

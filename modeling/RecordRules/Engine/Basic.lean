import RecordRules.Engine.Config
import RecordRules.Handler.Registry
import RecordRules.Handler.Stock
import RecordRules.Rulebook.Basic

/-!
# Engines

An engine is a configuration, a rulebook and two registries: one for all handlers, and
one that only ever holds those that validation needs.  What work with it changes, apart
from the values, is a `Workspace`: the engine with what it remembers, and a journal of
the checks that were made and of the notes that handlers left.
-/

namespace RecordRules

/-- A configuration with the rules and handlers in use. -/
structure Engine where
  config : Config := {}
  rules : Rulebook := {}
  registry : Registry := {}
  /-- The handlers of validation alone. -/
  validation : Registry := {}

/-- The registries of an engine, and an empty one. -/
inductive RegistryName where
  | full | validation | bare
deriving DecidableEq, Repr

namespace Engine

/-- The engine with the standard rulebook and the stock handlers.  Of two handlers for
one annotation the later one counts: first the validation, then the control of the walk,
then those that assign. -/
def new (config : Config) : Engine :=
  let validation := ((({} : Registry).register config.validateTag (.validate true)).register
    config.walkTag (.plain .walkControl))
  let registry := (validation.register "default" (.plain .defaults)).register "set"
    (.plain .assignment)
  { config, rules := .standard, registry, validation }

/-- A registry of the engine. -/
def registryNamed (e : Engine) : RegistryName → Registry
  | .full => e.registry
  | .validation => e.validation
  | .bare => {}

/-- Keeps an argument that a handler of a registry has read. -/
def rememberArgument (e : Engine) (registry : RegistryName) (key : String × String)
    (argument : Prepared) : Engine :=
  let remember (r : Registry) : Registry :=
    { r with arguments := r.arguments.remember key argument }
  match registry with
  | .full => { e with registry := remember e.registry }
  | .validation => { e with validation := remember e.validation }
  | .bare => e

/-- A short text for messages. -/
def describe (e : Engine) : String :=
  "Engine \x7b config: " ++ e.config.describe ++ ", rules: " ++ e.rules.describe ++
    ", registry: " ++ e.registry.describe ++ ", .. \x7d"

end Engine

/-- A check that was made: of what, and with which root. -/
structure Visit where
  check : Check
  root : Option Value
  value : Value

/-- An engine at work, and the journal of the work, newest entries first. -/
structure Workspace where
  engine : Engine
  visits : List Visit := []
  notes : List Note := []

/-- Work with an engine. -/
abbrev Work := StateM Workspace

namespace Work

/-- Makes a check and enters it in the journal. -/
def check (c : Check) (root : Option Value) (v : Value) : Work Outcome := do
  modify fun w => { w with visits := ⟨c, root, v⟩ :: w.visits }
  return c.test root v

/-- What the journal says of a check is what is tested: the outcome is that of the test with the
root and the value entered there. -/
theorem run_check (c : Check) (root : Option Value) (v : Value) (w : Workspace) :
    let visit : Visit := ⟨c, root, v⟩
    (check c root v).run w =
      (visit.check.test visit.root visit.value, { w with visits := visit :: w.visits }) :=
  rfl

/-- Compiles a rule with the rulebook of the engine. -/
def build (rule : String) : Work (Except BuildError Handle) := do
  let w ← get
  let (result, rules) := w.engine.rules.build rule
  set { w with engine := { w.engine with rules } }
  return result

end Work

end RecordRules

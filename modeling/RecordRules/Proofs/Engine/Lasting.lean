import RecordRules.Proofs.Engine.Faithful
import RecordRules.Proofs.Engine.Pairing

/-!
# Invariants of engines

An engine at work builds rules and keeps the arguments that its handlers have read.  A
property of engines that lasts through both (`Lasting`) lasts through every validation and
every walk, with handlers of any kind.  Handlers are registered and taken away as well, so
whatever is asked of an engine keeps such a property if registering does.
-/

namespace RecordRules

/-! ## Reading -/

/-- The engine after it has built a rule. -/
def Engine.built (e : Engine) (rule : String) : Engine :=
  { e with rules := (e.rules.build rule).2 }

/-- What a handler of an engine reads from the text of an annotation. -/
def Engine.read (e : Engine) (text : String) : Handler → Except Fatal Prepared
  | .validate shared =>
    match ((if shared then e.rules else .standard).build text).1.map Handle.validator with
    | .ok validator => .ok ⟨.rule, validator⟩
    | .error cause => .error (.rule cause)
  | .plain h => (h.parse text).map fun payload => ⟨h.sort, payload⟩

/-- What handlers read depends on the rules alone. -/
theorem read_congr {e e' : Engine} (rules : e.rules = e'.rules) (text : String) (h : Handler) :
    e.read text h = e'.read text h := by
  cases h with
  | validate shared => rw [Engine.read, Engine.read, rules]
  | plain h => rfl

/-- Building a rule does not change what handlers read. -/
theorem read_built (e : Engine) (rule text : String) (h : Handler) :
    (e.built rule).read text h = e.read text h := by
  cases h with
  | validate shared =>
    cases shared with
    | true =>
      rw [Engine.read, Engine.read]
      dsimp only [Engine.built]
      rw [if_pos rfl, if_pos rfl, map_build_build]
    | false => rfl
  | plain h => rfl

/-! ## Arguments -/

/-- Reading a text may build it as a rule and leave notes, and changes nothing else. -/
structure Reads (text : String) (before after : Workspace) : Prop where
  engine : after.engine = before.engine ∨ after.engine = before.engine.built text
  visits : after.visits = before.visits

theorem Reads.read {text : String} {before after : Workspace} (reads : Reads text before after)
    (text' : String) (h : Handler) : after.engine.read text' h = before.engine.read text' h := by
  rcases reads.engine with same | built
  · rw [same]
  · rw [built, read_built]

theorem Reads.registryNamed {text : String} {before after : Workspace}
    (reads : Reads text before after) (registry : RegistryName) :
    after.engine.registryNamed registry = before.engine.registryNamed registry := by
  rcases reads.engine with same | built
  · rw [same]
  · rw [built]
    cases registry <;> rfl

/-- A handler reads from a text what it reads with the engine as it is. -/
theorem parseArgument_run (text : String) (h : Handler) (state : WalkState) :
    ∃ work, (Walk.parseArgument text h).run.run state =
        (state.work.engine.read text h, { state with work }) ∧ Reads text state.work work := by
  cases h with
  | validate shared =>
    cases shared with
    | true =>
      refine ⟨((Work.build text).run state.work).2, ?_, .inr rfl, rfl⟩
      have result : ((Work.build text).run state.work).1 =
        (state.work.engine.rules.build text).1 := rfl
      rw [Walk.parseArgument, run_bind, run_work, Engine.read, if_pos rfl, ← result]
      dsimp only
      cases ((Work.build text).run state.work).1 <;> rfl
    | false =>
      refine ⟨state.work, ?_, .inl rfl, rfl⟩
      rw [Walk.parseArgument, Engine.read, if_neg Bool.false_ne_true]
      cases (Rulebook.standard.build text).1 <;> rfl
  | plain h =>
    refine ⟨{ state.work with notes := (h.notes text).reverse ++ state.work.notes }, ?_, .inl rfl,
      rfl⟩
    rw [Walk.parseArgument, run_bind, run_work, Engine.read]
    dsimp only
    cases h.parse text <;> rfl

/-- How the argument of an annotation is come by: what the handler has read from the quoted
text is known, or it cannot read the text, or it reads it now. -/
inductive Argued (s : WalkSetting) (h : Handler) (pair : Pair) (before : Workspace) :
    Except Fatal Prepared → Workspace → Prop
  | known {argument : Prepared} :
    (before.engine.registryNamed s.registry).arguments.get? (pair.name, pair.quoted) =
      some argument →
    Argued s h pair before (.ok argument) before
  | malformed {cause : Fatal} {after : Workspace} :
    (before.engine.registryNamed s.registry).arguments.get? (pair.name, pair.quoted) = none →
    Reads pair.value before after → before.engine.read pair.value h = .error cause →
    Argued s h pair before (.error (.malformed pair.name pair.value cause)) after
  | read {argument : Prepared} {after : Workspace} :
    (before.engine.registryNamed s.registry).arguments.get? (pair.name, pair.quoted) = none →
    Reads pair.value before after → before.engine.read pair.value h = .ok argument →
    Argued s h pair before (.ok argument) { after with
      engine := after.engine.rememberArgument s.registry (pair.name, pair.quoted) argument }

theorem Argued.visits {s : WalkSetting} {h : Handler} {pair : Pair} {before after : Workspace}
    {result : Except Fatal Prepared} (argued : Argued s h pair before result after) :
    after.visits = before.visits := by
  cases argued with
  | known _ => rfl
  | malformed _ reads _ => exact reads.visits
  | read _ reads _ => exact reads.visits

theorem Reads.config {text : String} {before after : Workspace} (reads : Reads text before after) :
    after.engine.config = before.engine.config := by
  rcases reads.engine with same | built
  · rw [same]
  · rw [built]
    rfl

theorem config_rememberArgument (e : Engine) (registry : RegistryName) (key : String × String)
    (argument : Prepared) : (e.rememberArgument registry key argument).config = e.config := by
  cases registry <;> rfl

theorem Argued.config {s : WalkSetting} {h : Handler} {pair : Pair} {before after : Workspace}
    {result : Except Fatal Prepared} (argued : Argued s h pair before result after) :
    after.engine.config = before.engine.config := by
  cases argued with
  | known _ => rfl
  | malformed _ reads _ => exact reads.config
  | read _ reads _ => exact (config_rememberArgument _ _ _ _).trans reads.config

theorem argumentOf_run (s : WalkSetting) (h : Handler) (pair : Pair) (state : WalkState) :
    ∃ result work, (Walk.argumentOf s h pair).run.run state = (result, { state with work }) ∧
      Argued s h pair state.work result work := by
  rw [Walk.argumentOf, run_get]
  cases found : (state.work.engine.registryNamed s.registry).arguments.get?
      (pair.name, pair.quoted) with
  | some argument => exact ⟨.ok argument, state.work, rfl, .known found⟩
  | none =>
    obtain ⟨work, run, reads⟩ := parseArgument_run pair.value h state
    dsimp only
    rw [run_bind, run_tryCatch, run]
    cases result : state.work.engine.read pair.value h with
    | error cause => exact ⟨_, work, rfl, .malformed found reads result⟩
    | ok argument => exact ⟨.ok argument, _, rfl, .read found reads result⟩

theorem argumentOf_congr {s s' : WalkSetting} (registry : s.registry = s'.registry) (h : Handler)
    (pair : Pair) : Walk.argumentOf s h pair = Walk.argumentOf s' h pair := by
  rw [Walk.argumentOf, Walk.argumentOf, registry]

/-! ## What is remembered -/

/-- Remembering an argument takes no handler away. -/
theorem handlers_rememberArgument (e : Engine) (registry registry' : RegistryName)
    (key : String × String) (argument : Prepared) :
    ((e.rememberArgument registry key argument).registryNamed registry').handlers =
      (e.registryNamed registry').handlers := by
  cases registry <;> cases registry' <;> rfl

/-- What the registry of that name remembers besides. -/
theorem arguments_rememberArgument {registry : RegistryName} (e : Engine)
    (is : registry ≠ .bare) (key : String × String) (argument : Prepared) :
    ((e.rememberArgument registry key argument).registryNamed registry).arguments =
      (e.registryNamed registry).arguments.remember key argument := by
  cases registry with
  | full => rfl
  | validation => rfl
  | bare => exact absurd rfl is

/-- Other registries remember what they did. -/
theorem arguments_rememberArgument_of_ne {registry registry' : RegistryName} (e : Engine)
    (other : registry ≠ registry') (key : String × String) (argument : Prepared) :
    ((e.rememberArgument registry key argument).registryNamed registry').arguments =
      (e.registryNamed registry').arguments := by
  cases registry <;> cases registry' <;> first | rfl | exact absurd rfl other

theorem ne_bare_of_handler {e : Engine} {registry : RegistryName} {name : String} {h : Handler}
    (handler : (e.registryNamed registry).handlers.get? name = some h) : registry ≠ .bare := by
  rintro rfl
  cases handler

theorem rules_rememberArgument (e : Engine) (registry : RegistryName) (key : String × String)
    (argument : Prepared) : (e.rememberArgument registry key argument).rules = e.rules := by
  cases registry <;> rfl

/-! ## Invariants -/

/-- A property of engines that lasts through work: rules may be built, and what a handler
reads from the text of an annotation may be remembered, unless something is. -/
structure Lasting (I : Engine → Prop) : Prop where
  built {e : Engine} (rule : String) : I e → I (e.built rule)
  remember {e : Engine} {registry : RegistryName} {name quoted text : String} {h : Handler}
    {argument : Prepared} : I e → (e.registryNamed registry).handlers.get? name = some h →
    (e.registryNamed registry).arguments.get? (name, quoted) = none →
    unquote quoted = .ok text → e.read text h = .ok argument →
    I (e.rememberArgument registry (name, quoted) argument)

/-- Workspaces that are the same, with an invariant of the engine. -/
def holding (I : Engine → Prop) (w w' : Workspace) : Prop :=
  w = w' ∧ I w.engine

variable {I : Engine → Prop}

theorem unjournaled_holding (I : Engine → Prop) : Unjournaled (holding I) where
  config := by
    rintro w _ ⟨rfl, -⟩
    rfl
  visit := by
    rintro w _ visit ⟨rfl, invariant⟩
    exact ⟨rfl, invariant⟩
  notes := by
    rintro w _ notes ⟨rfl, invariant⟩
    exact ⟨rfl, invariant⟩

/-- An argument is remembered once it is there. -/
theorem Argued.settles {s : WalkSetting} {h : Handler} {pair : Pair} {before after : Workspace}
    {argument : Prepared} (argued : Argued s h pair before (.ok argument) after)
    (handler : (before.engine.registryNamed s.registry).handlers.get? pair.name = some h) :
    (after.engine.registryNamed s.registry).handlers.get? pair.name = some h ∧
    (after.engine.registryNamed s.registry).arguments.get? (pair.name, pair.quoted) =
      some argument := by
  cases argued with
  | known found => exact ⟨handler, found⟩
  | @read _ between unknown reads _ =>
    rw [← reads.registryNamed s.registry] at handler unknown
    dsimp only
    rw [handlers_rememberArgument, arguments_rememberArgument _ (ne_bare_of_handler handler)]
    exact ⟨handler, Memo.get?_remember_self _ unknown argument⟩

/-- Reading the argument of an annotation keeps an invariant, and an argument is remembered
once it is there. -/
theorem Lasting.argued (lasting : Lasting I) {s : WalkSetting} {h : Handler} {pair : Pair}
    {before after : Workspace} {result : Except Fatal Prepared}
    (argued : Argued s h pair before result after) (invariant : I before.engine)
    (handler : (before.engine.registryNamed s.registry).handlers.get? pair.name = some h)
    (unquoted : unquote pair.quoted = .ok pair.value) :
    I after.engine ∧ ∀ argument, result = .ok argument →
      (after.engine.registryNamed s.registry).handlers.get? pair.name = some h ∧
      (after.engine.registryNamed s.registry).arguments.get? (pair.name, pair.quoted) =
        some argument := by
  refine ⟨?_, fun argument is => (is ▸ argued).settles handler⟩
  have kept : ∀ {between}, Reads pair.value before between → I between.engine := by
    intro between reads
    rcases reads.engine with same | built
    · rwa [same]
    · rw [built]
      exact lasting.built _ invariant
  cases argued with
  | known found => exact invariant
  | malformed _ reads _ => exact kept reads
  | @read argument between unknown reads result =>
    rw [← reads.registryNamed s.registry] at handler unknown
    rw [← reads.read pair.value h] at result
    exact lasting.remember (kept reads) handler unknown unquoted result

/-- A property of engines that is kept whenever a rule is built and whenever the argument of an
annotation is read, however it comes to be kept. -/
structure Durable (I : Engine → Prop) : Prop where
  built {e : Engine} (rule : String) : I e → I (e.built rule)
  argued {s : WalkSetting} {h : Handler} {pair : Pair} {state : WalkState} :
    I state.work.engine →
    (state.work.engine.registryNamed s.registry).handlers.get? pair.name = some h →
    unquote pair.quoted = .ok pair.value →
    I ((Walk.argumentOf s h pair).run.run state).2.work.engine

theorem Lasting.durable (lasting : Lasting I) : Durable I where
  built rule invariant := lasting.built rule invariant
  argued {s h pair state} invariant handler unquoted := by
    obtain ⟨result, work, runs, argued⟩ := argumentOf_run s h pair state
    rw [runs]
    exact (lasting.argued argued invariant handler unquoted).1

theorem Durable.builds (durable : Durable I) : Builds (holding I) := by
  rintro w _ rule ⟨rfl, invariant⟩
  exact ⟨rfl, rfl, durable.built rule invariant⟩

/-- A way to run handlers that is as good as theirs for the arguments that are remembered
when an invariant holds. -/
def Runner.Serves (run : Runner) (I : Engine → Prop) (registry : RegistryName) : Prop :=
  ∀ (s : WalkSetting) (path : FieldPath) (info : FieldInfo) (h : Handler) (argument : Prepared)
    (state : WalkState), ∀ pair ∈ annotationPairs info.tag,
    s.registry = registry → I state.work.engine →
    (state.work.engine.registryNamed registry).handlers.get? pair.name = some h →
    (state.work.engine.registryNamed registry).arguments.get? (pair.name, pair.quoted) =
      some argument →
    (run s path info h argument).run.run state =
      (Walk.runHandler s path info h argument).run.run state

theorem serves_runHandler (I : Engine → Prop) (registry : RegistryName) :
    Runner.Serves Walk.runHandler I registry :=
  fun _ _ _ _ _ _ _ _ _ _ _ _ => rfl

theorem Abreast.eq {state state' : WalkState} (abreast : Abreast (holding I) state state') :
    state = state' ∧ I state.work.engine := by
  obtain ⟨⟨work, invariant⟩, root, failures, recorded⟩ := abreast
  obtain ⟨_, _, _, _⟩ := state
  obtain ⟨_, _, _, _⟩ := state'
  cases work
  cases root
  cases failures
  cases recorded
  exact ⟨rfl, invariant⟩

/-- Handlers can be run in any way that serves. -/
theorem Durable.dispatches (durable : Durable I) {run : Runner} {registry : RegistryName}
    (serves : run.Serves I registry) :
    Dispatches (holding I) run Walk.runHandler registry := by
  intro s s' alike is path info pair mem state state' abreast
  obtain ⟨rfl, invariant⟩ := abreast.eq
  have unquoted := unquote_of_mem_annotationPairs mem
  rw [Walk.annotation, Walk.annotation, run_get, run_get, ← alike.registry]
  cases handler : (state.work.engine.registryNamed s.registry).handlers.get? pair.name with
  | none => exact ⟨.ok .descend, state, state, rfl, rfl, abreast⟩
  | some h =>
    have kept := durable.argued invariant handler unquoted
    obtain ⟨result, work, runs, argued⟩ := argumentOf_run s h pair state
    rw [runs] at kept
    have after_abreast : Abreast (holding I) { state with work } { state with work } :=
      ⟨⟨rfl, kept⟩, rfl, rfl, rfl⟩
    dsimp only
    rw [run_bind, run_bind, ← argumentOf_congr alike.registry, runs]
    cases result with
    | error e => exact ⟨.error e, _, _, rfl, rfl, after_abreast⟩
    | ok argument =>
      obtain ⟨handler, known⟩ := argued.settles handler
      dsimp only
      rw [serves s path info h argument _ pair mem is kept (is ▸ handler) (is ▸ known)]
      exact paired_runHandler (unjournaled_holding I) alike path info h argument _ _ after_abreast

theorem Lasting.dispatches (lasting : Lasting I) {run : Runner} {registry : RegistryName}
    (serves : run.Serves I registry) : Dispatches (holding I) run Walk.runHandler registry :=
  lasting.durable.dispatches serves

/-! ## Requests -/

/-- What can be asked of an engine, other than to take in functions and symbols. -/
inductive Request where
  | build (rule : String)
  | run (validator : Validator) (root : Option Value) (v : Value)
  | validate (v : Value) (rule : String)
  | validateNested (root : Option Value) (v : Value)
  | validateStruct (v : Value)
  | walk (settable : Bool) (v : Value)
  | walkWith (registry : RegistryName) (settable selfValidate : Bool) (outer : Option Value)
    (v : Value)
  | register (name : String) (h : Handler)
  | unregister (name : String)

namespace Request

/-- The work of a request, whatever comes of it. -/
def perform : Request → Work Unit
  | build rule => do let _ ← Work.build rule
  | run validator root v => do let _ ← Engine.run validator root v
  | validate v rule => do let _ ← Engine.validate v rule
  | validateNested root v => do let _ ← Engine.validateNested root v
  | validateStruct v => do let _ ← Engine.validateStruct v
  | walk settable v => do let _ ← Engine.walk settable v
  | walkWith registry settable selfValidate outer v => do
    let _ ← Engine.walkWith registry settable selfValidate outer v
  | register name h => Engine.register name h
  | unregister name => do let _ ← Engine.unregister name

/-- The work of several requests, one after the other. -/
def performAll : List Request → Work Unit
  | [] => pure ()
  | request :: requests => do
    request.perform
    performAll requests

/-- What a request makes of the handlers for walks. -/
def registered : Request → Registry → Registry
  | register name h, r => r.register name h
  | unregister name, r => r.unregister name
  | _, r => r

end Request

/-- Work that keeps an invariant does so from any workspace. -/
theorem kept_of_holding {α : Type} {x y : Work α} (related : (pairing (holding I)).Rel x y)
    {w : Workspace} (invariant : I w.engine) : x.run w = y.run w ∧ I (x.run w).2.engine := by
  obtain ⟨a, after, _, runs, runs', rfl, kept⟩ := related w w ⟨rfl, invariant⟩
  rw [runs, runs']
  exact ⟨rfl, kept⟩

/-- A request keeps an invariant that is durable, if what it does to the handlers keeps it. -/
theorem Durable.perform (durable : Durable I) (request : Request)
    (registers : ∀ e, I e → I { e with registry := request.registered e.registry })
    {w : Workspace} (invariant : I w.engine) : I (request.perform.run w).2.engine := by
  have journals := unjournaled_holding I
  have dispatches := fun registry => durable.dispatches (serves_runHandler I registry)
  have validates := dispatches .validation
  have quiet : ∀ {α : Type} {x : Work α}, (pairing (holding I)).Rel x x →
      I ((do let _ ← x : Work Unit).run w).2.engine := by
    intro α x related
    have both := (pairing (holding I)).bind related fun _ => (pairing (holding I)).pure ()
    exact (kept_of_holding both invariant).2
  cases request with
  | build rule =>
    have built := paired_build durable.builds rule fun _ _ _ => (pairing (holding I)).pure ()
    exact (kept_of_holding built invariant).2
  | run validator root v => exact quiet (paired_run journals validates validator root v)
  | validate v rule => exact quiet (paired_validate journals validates durable.builds v rule)
  | validateNested root v => exact quiet (paired_nested journals validates v.depth root v)
  | validateStruct v => exact quiet (paired_validateStruct journals validates v)
  | walk settable v =>
    refine quiet (paired_workspace fun w w' same => ?_)
    rw [same.1]
    exact paired_walkWith journals validates (dispatches .full) settable _ none v
  | walkWith registry settable selfValidate outer v =>
    have walked := paired_walkWith journals validates (dispatches registry) settable
      selfValidate outer v
    exact quiet walked
  | register name h => exact registers w.engine invariant
  | unregister name => exact registers w.engine invariant

/-- An invariant that lasts through work and through registering holds whatever is asked. -/
theorem Lasting.performAll (lasting : Lasting I) (requests : List Request)
    (registers : ∀ request ∈ requests, ∀ e, I e →
      I { e with registry := Request.registered request e.registry })
    {w : Workspace} (invariant : I w.engine) :
    I ((Request.performAll requests).run w).2.engine := by
  induction requests generalizing w with
  | nil => exact invariant
  | cons request requests ih =>
    have first := lasting.durable.perform request (registers request List.mem_cons_self) invariant
    exact ih (fun other mem => registers other (List.mem_cons_of_mem _ mem)) first

end RecordRules

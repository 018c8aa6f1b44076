import RecordRules.Proofs.Engine.Ownership

/-!
# Histories

An engine also takes in functions and symbols, and this may change what rules mean that have
not been compiled.  A rule that has been compiled keeps its meaning.  Now an argument is only
remembered by a handler with the rulebook of the engine if its text has been compiled as a
rule.  So whatever is remembered still belongs to its handler after any history: the engine
is `Secure`.
-/

namespace RecordRules

/-! ## Compiled rules -/

namespace Rulebook

/-- Building a rule forgets none that has been compiled. -/
theorem compiled_build {book : Rulebook} {text : String} {handle : Handle}
    (known : book.compiled.get? text = some handle) (rule : String) :
    (book.build rule).2.compiled.get? text = some handle := by
  rcases book.build_cases rule with ⟨_, -, built⟩ | ⟨_, -, -, built⟩ | ⟨_, -, -, built⟩
  · rwa [built]
  · rw [built]
    exact Memo.get?_remember_of_some known _ _
  · rwa [built]

/-- A rule that was built has been compiled. -/
theorem compiled_of_build {book : Rulebook} {rule : String} {handle : Handle}
    (result : (book.build rule).1 = .ok handle) :
    (book.build rule).2.compiled.get? rule = some handle := by
  rcases book.build_cases rule with
    ⟨_, found, built⟩ | ⟨_, unknown, -, built⟩ | ⟨_, -, -, built⟩
  · rw [built] at result ⊢
    cases result
    exact found
  · rw [built] at result ⊢
    cases result
    exact Memo.get?_remember_self _ unknown _
  · rw [built] at result
    cases result

end Rulebook

/-- A rule that has been compiled is read alike whatever functions and symbols there are. -/
theorem read_of_compiled {e e' : Engine} (compiled : e'.rules.compiled = e.rules.compiled)
    {text : String} {h : Handler}
    (known : h = .validate true → ∃ handle, e.rules.compiled.get? text = some handle) :
    e'.read text h = e.read text h := by
  cases h with
  | validate shared =>
    cases shared with
    | true =>
      obtain ⟨handle, known⟩ := known rfl
      have known' : e'.rules.compiled.get? text = some handle := by rwa [compiled]
      rw [Engine.read, Engine.read, if_pos rfl, if_pos rfl, Rulebook.build_of_remembered known,
        Rulebook.build_of_remembered known']
    | false => rfl
  | plain h => rfl

/-- What the handler of validation remembers now has been compiled. -/
theorem compiled_argumentOf {s : WalkSetting} {pair : Pair} {state : WalkState}
    {argument : Prepared}
    (unknown : (state.work.engine.registryNamed s.registry).arguments.get?
      (pair.name, pair.quoted) = none)
    (reads : ((Walk.argumentOf s (.validate true) pair).run.run state).1 = .ok argument) :
    ∃ handle, ((Walk.argumentOf s (.validate true) pair).run.run
      state).2.work.engine.rules.compiled.get? pair.value = some handle := by
  rw [Walk.argumentOf, run_get, unknown] at reads ⊢
  dsimp only at reads ⊢
  rw [run_bind, run_tryCatch, Walk.parseArgument, run_bind, run_work] at reads ⊢
  dsimp only at reads ⊢
  cases built : ((Work.build pair.value).run state.work).1 with
  | error e =>
    rw [built] at reads
    cases reads
  | ok handle =>
    refine ⟨handle, ?_⟩
    change (Engine.rememberArgument _ _ _ _).rules.compiled.get? pair.value = some handle
    rw [rules_rememberArgument]
    exact Rulebook.compiled_of_build built

/-! ## Secure engines -/

/-- The rules in the arguments that are remembered have been compiled. -/
def Engine.CompiledAll (e : Engine) : Prop :=
  ∀ registry name quoted text argument,
    (e.registryNamed registry).arguments.get? (name, quoted) = some argument →
    (e.registryNamed registry).handlers.get? name = some (.validate true) →
    unquote quoted = .ok text → ∃ handle, e.rules.compiled.get? text = some handle

/-- Every argument that is remembered belongs to its handler, and will whatever functions and
symbols there are. -/
structure Engine.Secure (e : Engine) : Prop where
  owns : e.OwnsAll
  compiled : e.CompiledAll

/-- Rules stay compiled while nothing is remembered. -/
theorem compiledAll_built {e : Engine} (compiled : e.CompiledAll) (rule : String) :
    (e.built rule).CompiledAll := by
  intro registry name quoted text argument known handler unquoted
  rw [registryNamed_built] at known handler
  obtain ⟨handle, found⟩ := compiled registry name quoted text argument known handler unquoted
  exact ⟨handle, Rulebook.compiled_build found rule⟩

/-- Reading an annotation compiles what it remembers. -/
theorem compiledAll_argumentOf {s : WalkSetting} {h : Handler} {pair : Pair} {state : WalkState}
    (compiled : state.work.engine.CompiledAll)
    (handler : (state.work.engine.registryNamed s.registry).handlers.get? pair.name = some h)
    (unquoted : unquote pair.quoted = .ok pair.value) :
    ((Walk.argumentOf s h pair).run.run state).2.work.engine.CompiledAll := by
  obtain ⟨result, work, runs, argued⟩ := argumentOf_run s h pair state
  have compiles := @compiled_argumentOf s pair state
  rw [runs]
  have kept : ∀ {between}, Reads pair.value state.work between → between.engine.CompiledAll := by
    intro between reads
    rcases reads.engine with same | built
    · rwa [same]
    · rw [built]
      exact compiledAll_built compiled _
  cases argued with
  | known _ => exact compiled
  | malformed _ reads _ => exact kept reads
  | @read argument between unknown reads _ =>
    intro registry name quoted text argument' known handler' unquoted'
    dsimp only at known handler' ⊢
    rw [handlers_rememberArgument] at handler'
    rw [rules_rememberArgument]
    have before := kept reads registry name quoted text argument'
    by_cases same : s.registry = registry
    · subst same
      have is : s.registry ≠ .bare := ne_bare_of_handler handler
      rw [arguments_rememberArgument _ is] at known
      rcases Memo.get?_remember known with known | ⟨key, rfl⟩
      · exact before known handler' unquoted'
      · cases key
        cases unquoted.symm.trans unquoted'
        rw [reads.registryNamed] at handler'
        cases handler.symm.trans handler'
        obtain ⟨handle, found⟩ := compiles unknown (congrArg Prod.fst runs)
        rw [runs, rules_rememberArgument] at found
        exact ⟨handle, found⟩
    · rw [arguments_rememberArgument_of_ne _ same] at known
      exact before known handler' unquoted'

theorem durable_secure : Durable Engine.Secure where
  built rule secure :=
    ⟨lasting_ownsAll.built rule secure.owns, compiledAll_built secure.compiled rule⟩
  argued secure handler unquoted :=
    ⟨lasting_ownsAll.durable.argued secure.owns handler unquoted,
      compiledAll_argumentOf secure.compiled handler unquoted⟩

/-- Functions and symbols may come and go. -/
theorem Engine.Secure.withTables {e : Engine} (secure : e.Secure) (functions : Table Function)
    (symbols : Table Argument) :
    Engine.Secure { e with rules := { e.rules with functions, symbols } } := by
  have registries : ∀ registry, ({ e with rules := { e.rules with functions, symbols } } :
      Engine).registryNamed registry = e.registryNamed registry := by
    intro registry
    cases registry <;> rfl
  constructor
  · intro registry name quoted argument known
    rw [registries] at known
    obtain ⟨h, text, handler, unquoted, reads⟩ := secure.owns registry name quoted argument known
    refine ⟨h, text, registries registry ▸ handler, unquoted, ?_⟩
    rw [← reads]
    refine read_of_compiled (by rfl) ?_
    rintro rfl
    exact secure.compiled registry name quoted text argument known handler unquoted
  · intro registry name quoted text argument known handler unquoted
    rw [registries] at known handler
    exact secure.compiled registry name quoted text argument known handler unquoted

/-- Handlers may come and go. -/
theorem Engine.Secure.registered {e : Engine} (secure : e.Secure) (request : Request) :
    Engine.Secure { e with registry := request.registered e.registry } := by
  refine ⟨ownsAll_registered request secure.owns, ?_⟩
  intro registry name quoted text argument known handler unquoted
  by_cases replaces : request.Replaces registry name
  · rw [Request.arguments_registered_of_replaces replaces] at known
    cases known
  · rw [Request.arguments_registered_of_spares replaces] at known
    rw [Request.handlers_registered_of_spares replaces] at handler
    exact secure.compiled registry name quoted text argument known handler unquoted

/-- Work leaves the configuration alone. -/
theorem lasting_config (config : Config) : Lasting fun e => e.config = config where
  built _ is := is
  remember is _ _ _ _ := (config_rememberArgument _ _ _ _).trans is

/-! ## Operations -/

/-- What is done with an engine. -/
inductive Operation where
  | request (request : Request)
  | addFunction (f : Function)
  | addSymbol (name : String) (value : Argument)

namespace Operation

/-- What an operation makes of the engine itself. -/
def applied : Operation → Engine → Engine
  | request r, e => { e with registry := r.registered e.registry }
  | addFunction f, e => { e with rules := e.rules.addFunction f }
  | addSymbol name value, e => { e with rules := e.rules.addSymbol name value }

/-- The work of an operation, whatever comes of it. -/
def perform : Operation → Work Unit
  | request r => r.perform
  | addFunction f => modify fun w => { w with engine := { w.engine with
      rules := w.engine.rules.addFunction f } }
  | addSymbol name value => modify fun w => { w with engine := { w.engine with
      rules := w.engine.rules.addSymbol name value } }

/-- The work of several operations, one after the other. -/
def performAll : List Operation → Work Unit
  | [] => pure ()
  | operation :: operations => do
    operation.perform
    performAll operations

/-- The operation gives a name another handler or none. -/
def Replaces (name : String) : Operation → Prop
  | request r => r.Replaces .full name
  | _ => False

end Operation

/-- The workspace after operations. -/
def Workspace.afterAll (w : Workspace) (operations : List Operation) : Workspace :=
  ((Operation.performAll operations).run w).2

variable {I : Engine → Prop}

theorem Durable.operation (durable : Durable I) {operation : Operation}
    (applied : ∀ e, I e → I (operation.applied e)) {w : Workspace} (invariant : I w.engine) :
    I (operation.perform.run w).2.engine := by
  cases operation with
  | request r => exact durable.perform r applied invariant
  | addFunction f => exact applied w.engine invariant
  | addSymbol name value => exact applied w.engine invariant

/-- A durable property holds after any history if it outlasts what each operation makes of the
engine itself. -/
theorem Durable.afterAll (durable : Durable I) {operations : List Operation}
    (applied : ∀ operation ∈ operations, ∀ e, I e → I (operation.applied e)) {w : Workspace}
    (invariant : I w.engine) : I (w.afterAll operations).engine := by
  induction operations generalizing w with
  | nil => exact invariant
  | cons operation operations ih =>
    have first := durable.operation (applied operation List.mem_cons_self) invariant
    exact ih (fun other mem => applied other (List.mem_cons_of_mem _ mem)) first

/-- An engine is secure after any history if it has remembered no argument before it. -/
theorem secure_afterAll {w : Workspace}
    (nothing : ∀ registry, (w.engine.registryNamed registry).arguments = .empty)
    (operations : List Operation) : (w.afterAll operations).engine.Secure := by
  refine durable_secure.afterAll (fun operation _ e secure => ?_) ?_
  · cases operation with
    | request r => exact secure.registered r
    | addFunction f => exact secure.withTables _ _
    | addSymbol name value => exact secure.withTables _ _
  · constructor
    · intro registry name quoted argument known
      rw [nothing] at known
      cases known
    · intro registry name quoted text argument known
      rw [nothing] at known
      cases known

/-- A name keeps its handler until it gets another one or none. -/
theorem handlers_afterAll {operations : List Operation} {name : String}
    (spared : ∀ operation ∈ operations, ¬ operation.Replaces name) (w : Workspace) :
    (w.afterAll operations).engine.registry.handlers.get? name =
      w.engine.registry.handlers.get? name := by
  have lasting := lasting_handler .full name (w.engine.registry.handlers.get? name)
  refine lasting.durable.afterAll (fun operation mem e is => ?_) rfl
  cases operation with
  | request r => exact (Request.handlers_registered_of_spares (spared _ mem) e).trans is
  | addFunction f => exact is
  | addSymbol name value => exact is

/-- The handlers of validation stay. -/
theorem validation_afterAll (operations : List Operation) (w : Workspace) (name : String) :
    (w.afterAll operations).engine.validation.handlers.get? name =
      w.engine.validation.handlers.get? name := by
  have lasting := lasting_handler .validation name (w.engine.validation.handlers.get? name)
  refine lasting.durable.afterAll (fun operation mem e is => ?_) rfl
  cases operation with
  | request r => exact is
  | addFunction f => exact is
  | addSymbol name value => exact is

end RecordRules

import RecordRules.Proofs.Engine.Lasting

/-!
# Work keeps engines faithful

Whatever is asked of an engine, it stays faithful to its setup as long as it gets no
further functions or symbols: rules are built, arguments are read, handlers are
registered and values are walked, with handlers of any kind.

Engines remember the validators of rules and the arguments of annotations, and handlers come
and go.  None of this shows in what is said of a value: two engines that are faithful to one
setup find the same of a structure and the same of a value under a rule, whatever each of
them has done so far.
-/

namespace RecordRules

variable {s : Setup} {α : Type}

/-- Work that leaves a faithful engine faithful. -/
def Setup.Keeps (s : Setup) (x : Work α) : Prop :=
  ∀ w, s.Faithful w.engine → s.Faithful (x.run w).2.engine

/-! ## Arguments -/

/-- Handlers of a faithful engine read what the setup says. -/
theorem Setup.Faithful.read {e : Engine} (faithful : s.Faithful e) (text : String) {h : Handler}
    (engine : h ≠ .validate false) : e.read text h = s.reading.argument text h := by
  cases h with
  | validate shared =>
    cases shared with
    | true =>
      rw [Engine.read, if_pos rfl, build_eq_meaning faithful]
      rfl
    | false => exact absurd rfl engine
  | plain h => rfl

/-- The handlers of validation use the rulebook of the engine. -/
theorem ne_standard_of_validation {name : String} {h : Handler}
    (handler : s.engine.validation.handlers.get? name = some h) : h ≠ .validate false := by
  rw [validation_handler] at handler
  rintro rfl
  split at handler
  · cases handler
  · split at handler <;> cases handler

/-- An engine remembers rightly as long as it is only worked with. -/
theorem lasting_faithful (s : Setup) : Lasting s.Faithful where
  built rule faithful := faithful_build faithful rule
  remember {e registry name quoted text h argument} faithful handler _ unquoted reads := by
    refine faithful_remember faithful registry fun validation => ⟨text, h, unquoted, ?_⟩
    subst validation
    have registered : s.engine.validation.handlers.get? name = some h := by
      rw [← faithful.handlers]
      exact handler
    rw [← faithful.read text (ne_standard_of_validation registered)]
    exact ⟨registered, reads⟩

/-- In a walk of validation, an argument is what its handler reads from the entry. -/
theorem run_argumentOf (setting : WalkSetting) (validation : setting.registry = .validation)
    {h : Handler} {pair : Pair} (unquoted : unquote pair.quoted = .ok pair.value)
    (handler : s.engine.validation.handlers.get? pair.name = some h) (state : WalkState)
    (faithful : s.Faithful state.work.engine) :
    ∃ work, (Walk.argumentOf setting h pair).run.run state =
        ((s.reading.argument pair.value h).mapError (.malformed pair.name pair.value),
          { state with work }) ∧
      s.Faithful work.engine ∧ work.visits = state.work.visits := by
  have reads := faithful.read pair.value (ne_standard_of_validation handler)
  have registered : (state.work.engine.registryNamed setting.registry).handlers.get? pair.name =
      some h := by
    rw [validation, Engine.registryNamed, faithful.handlers]
    exact handler
  obtain ⟨result, work, run, argued⟩ := argumentOf_run setting h pair state
  have kept := ((lasting_faithful s).argued argued faithful registered unquoted).1
  refine ⟨work, ?_, kept, argued.visits⟩
  rw [run]
  cases argued with
  | known found =>
    rw [validation] at found
    rw [faithful.arguments _ _ _ _ _ found unquoted handler]
    rfl
  | malformed _ _ result =>
    rw [← reads, result]
    rfl
  | read _ _ result =>
    rw [← reads, result]
    rfl

/-! ## Requests -/

/-- An engine stays faithful whatever is asked of it. -/
theorem keeps_performAll (requests : List Request) : s.Keeps (Request.performAll requests) := by
  intro w faithful
  refine (lasting_faithful s).performAll requests (fun request _ e faithful => ?_) faithful
  exact faithful.withRegistry _

/-! ## Answers do not depend on the past -/

/-- Workspaces whose engines are faithful to one setup. -/
def Setup.Peers (s : Setup) (w w' : Workspace) : Prop :=
  s.Faithful w.engine ∧ s.Faithful w'.engine

theorem unjournaled_peers (s : Setup) : Unjournaled s.Peers where
  config peers := peers.1.config.trans peers.2.config.symm
  visit _ peers := peers
  notes _ peers := peers

theorem builds_peers (s : Setup) : Builds s.Peers := by
  rintro w w' rule ⟨faithful, faithful'⟩
  refine ⟨?_, faithful_build faithful rule, faithful_build faithful' rule⟩
  exact (build_eq_meaning faithful rule).trans (build_eq_meaning faithful' rule).symm

/-- Both engines have the handlers of the setup, and each reads an annotation or remembers
what it would read. -/
theorem dispatches_peers (s : Setup) :
    Dispatches s.Peers Walk.runHandler Walk.runHandler .validation := by
  intro setting setting' alike validation path info pair mem state state' abreast
  obtain ⟨faithful, faithful'⟩ := abreast.work
  have unquoted := unquote_of_mem_annotationPairs mem
  have validation' : setting'.registry = .validation := alike.registry.symm.trans validation
  rw [Walk.annotation, Walk.annotation, run_get, run_get, validation, validation',
    Engine.registryNamed, Engine.registryNamed, faithful.handlers, faithful'.handlers]
  cases handler : s.engine.validation.handlers.get? pair.name with
  | none => exact ⟨.ok .descend, state, state', rfl, rfl, abreast⟩
  | some h =>
    obtain ⟨work, runs, kept, -⟩ :=
      run_argumentOf setting validation unquoted handler state faithful
    obtain ⟨work', runs', kept', -⟩ :=
      run_argumentOf setting' validation' unquoted handler state' faithful'
    have read_abreast : Abreast s.Peers { state with work } { state' with work := work' } :=
      { abreast with work := ⟨kept, kept'⟩ }
    dsimp only
    rw [run_bind, run_bind, runs, runs']
    cases s.reading.argument pair.value h with
    | error e => exact ⟨.error _, _, _, rfl, rfl, read_abreast⟩
    | ok argument =>
      exact paired_runHandler (unjournaled_peers s) alike path info h argument _ _ read_abreast

/-- Peers find the same of a structure. -/
theorem validateStruct_peers {w w' : Workspace} (peers : s.Peers w w') (v : Value) :
    ((Engine.validateStruct v).run w).1 = ((Engine.validateStruct v).run w').1 := by
  have paired := paired_validateStruct (unjournaled_peers s) (dispatches_peers s) v
  obtain ⟨result, _, _, runs, runs', -⟩ := paired w w' peers
  rw [runs, runs']

/-- Peers find the same of a value under a rule. -/
theorem validate_peers {w w' : Workspace} (peers : s.Peers w w') (v : Value) (rule : String) :
    ((Engine.validate v rule).run w).1 = ((Engine.validate v rule).run w').1 := by
  have paired :=
    paired_validate (unjournaled_peers s) (dispatches_peers s) (builds_peers s) v rule
  obtain ⟨result, _, _, runs, runs', -⟩ := paired w w' peers
  rw [runs, runs']

/-- Whatever an engine has been asked before, failures included, it answers like a fresh
engine of the same setup, both of a structure and of a value under a rule.  It still does
after handlers are registered or taken away. -/
theorem answers_of_performAll (s : Setup) (requests : List Request) (v : Value) (rule : String) :
    let fresh : Workspace := { engine := s.engine }
    let used := ((Request.performAll requests).run fresh).2
    ((Engine.validateStruct v).run used).1 = ((Engine.validateStruct v).run fresh).1 ∧
    ((Engine.validate v rule).run used).1 = ((Engine.validate v rule).run fresh).1 ∧
    (∀ name h, ((do Engine.register name h; Engine.validateStruct v).run used).1 =
      ((Engine.validateStruct v).run used).1) ∧
    ∀ name, ((do let _ ← Engine.unregister name; Engine.validateStruct v).run used).1 =
      ((Engine.validateStruct v).run used).1 := by
  intro fresh used
  have start : s.Faithful fresh.engine := faithful_engine s
  have faithful : s.Faithful used.engine := keeps_performAll requests fresh start
  have registered : ∀ registry,
      s.Peers { used with engine := { used.engine with registry } } used :=
    fun registry => ⟨faithful.withRegistry registry, faithful⟩
  refine ⟨validateStruct_peers ⟨faithful, start⟩ v, validate_peers ⟨faithful, start⟩ v rule,
    fun name h => ?_, fun name => ?_⟩
  · exact validateStruct_peers (registered (used.engine.registry.register name h)) v
  · exact validateStruct_peers (registered (used.engine.registry.unregister name)) v

end RecordRules

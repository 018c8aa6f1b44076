import RecordRules.Proofs.Engine.History
import RecordRules.Proofs.Engine.Outermost
import RecordRules.Proofs.Value.Locating

/-!
# The walks agree on validation

A structure can be validated in three ways: by a walk that may change it, by one that may
not, and by validation alone.  The first two look handlers and arguments up in one registry,
the last in another, and nested structures are always validated with the latter.  As long as
the annotations of a value concern nothing but validation, all three find the same.

Both sides are compared with one engine, the one from which they start: whatever they
remember on the way is what they would read there.
-/

namespace RecordRules

/-! ## Engines that match -/

/-- An engine reads annotations like another one, with the same handlers. -/
structure Engine.Matches (base e : Engine) : Prop where
  owns : e.OwnsAll
  config : e.config = base.config
  reads : ∀ text h, e.read text h = base.read text h
  handlers : ∀ registry,
    (e.registryNamed registry).handlers = (base.registryNamed registry).handlers

/-- An engine goes on matching as long as it is only worked with. -/
theorem lasting_matches (base : Engine) : Lasting base.Matches where
  built {e} rule same :=
    { owns := lasting_ownsAll.built rule same.owns
      config := same.config
      reads := fun text h => (read_built e rule text h).trans (same.reads text h)
      handlers := fun registry => by rw [registryNamed_built, same.handlers] }
  remember {e registry name quoted text h argument} same handler unknown unquoted reads :=
    { owns := lasting_ownsAll.remember same.owns handler unknown unquoted reads
      config := (config_rememberArgument e registry _ argument).trans same.config
      reads := fun text h =>
        (read_congr (rules_rememberArgument e registry _ argument) text h).trans (same.reads text h)
      handlers := fun registry' => by rw [handlers_rememberArgument, same.handlers] }

section matching

variable {base : Engine}

/-- The argument of an annotation is what the handler reads, whether it is remembered or not. -/
theorem argumentOf_of_matches (s : WalkSetting) {h : Handler} {pair : Pair} {state : WalkState}
    (same : base.Matches state.work.engine)
    (handler : (base.registryNamed s.registry).handlers.get? pair.name = some h)
    (unquoted : unquote pair.quoted = .ok pair.value) :
    ∃ work, (Walk.argumentOf s h pair).run.run state =
        ((base.read pair.value h).mapError (.malformed pair.name pair.value),
          { state with work }) ∧ base.Matches work.engine := by
  have registered : (state.work.engine.registryNamed s.registry).handlers.get? pair.name =
      some h := by rwa [same.handlers]
  obtain ⟨result, work, runs, argued⟩ := argumentOf_run s h pair state
  have kept := ((lasting_matches base).argued argued same registered unquoted).1
  refine ⟨work, ?_, kept⟩
  rw [runs, ← same.reads]
  cases argued with
  | @known argument found =>
    obtain ⟨h', text, handler', unquoted', reads⟩ := same.owns _ _ _ _ found
    cases registered.symm.trans handler'
    cases unquoted.symm.trans unquoted'
    rw [reads]
    rfl
  | malformed _ _ reads =>
    rw [reads]
    rfl
  | read _ _ reads =>
    rw [reads]
    rfl

/-- Workspaces whose engines match one engine. -/
def Engine.matched (base : Engine) (w w' : Workspace) : Prop :=
  base.Matches w.engine ∧ base.Matches w'.engine

theorem unjournaled_matched (base : Engine) : Unjournaled base.matched where
  config both := both.1.config.trans both.2.config.symm
  visit _ both := both
  notes _ both := both

/-- Two registries that have the same handler for an annotation do the same for it, if the
handler does. -/
theorem paired_annotation {s s' : WalkSetting} {path : FieldPath} {info : FieldInfo} {pair : Pair}
    (unquoted : unquote pair.quoted = .ok pair.value)
    (handlers : (base.registryNamed s.registry).handlers.get? pair.name =
      (base.registryNamed s'.registry).handlers.get? pair.name)
    (runs : ∀ h argument, (base.registryNamed s'.registry).handlers.get? pair.name = some h →
      (walkPairing base.matched).Rel (Walk.runHandler s path info h argument)
        (Walk.runHandler s' path info h argument)) :
    (walkPairing base.matched).Rel (Walk.annotation Walk.runHandler s path info pair)
      (Walk.annotation Walk.runHandler s' path info pair) := by
  refine paired_get fun state state' abreast => ?_
  obtain ⟨same, same'⟩ := abreast.work
  rw [same.handlers, same'.handlers, handlers]
  cases handler : (base.registryNamed s'.registry).handlers.get? pair.name with
  | none => exact (walkPairing base.matched).pure _
  | some h =>
    refine (walkPairing base.matched).bind (fun state state' abreast => ?_) fun argument =>
      runs h argument handler
    obtain ⟨same, same'⟩ := abreast.work
    obtain ⟨work, argues, kept⟩ :=
      argumentOf_of_matches s same (handlers.trans handler) unquoted
    obtain ⟨work', argues', kept'⟩ := argumentOf_of_matches s' same' handler unquoted
    exact ⟨_, _, _, argues, argues', { abreast with work := ⟨kept, kept'⟩ }⟩

theorem dispatches_matched (base : Engine) (registry : RegistryName) :
    Dispatches base.matched Walk.runHandler Walk.runHandler registry := by
  intro s s' alike _ path info pair mem
  refine paired_annotation (unquote_of_mem_annotationPairs mem) (by rw [alike.registry]) ?_
  exact fun h argument _ => paired_runHandler (unjournaled_matched base) alike path info h argument

end matching

/-! ## Handlers of validation -/

/-- The handlers that validation has. -/
def Handler.Validates (h : Handler) : Prop :=
  h = .validate true ∨ h = .plain .walkControl

theorem validates_of_validation (config : Config) {name : String} {h : Handler}
    (handler : (Engine.new config).validation.handlers.get? name = some h) : h.Validates := by
  have found := validation_handler ⟨config, {}, {}⟩ name
  rw [show (Setup.engine ⟨config, {}, {}⟩).validation = (Engine.new config).validation from rfl,
    handler] at found
  split at found
  · cases found
    exact .inr rfl
  · split at found
    · cases found
      exact .inl rfl
    · cases found

/-- The settings of validation alone for a walk. -/
def WalkSetting.validating (s : WalkSetting) : WalkSetting :=
  { s with registry := .validation, settable := false }

/-- For a handler of validation it makes no difference whether fields may be changed. -/
theorem runHandler_validating (s : WalkSetting) (path : FieldPath) (info : FieldInfo) {h : Handler}
    (validates : h.Validates) (argument : Prepared) :
    Walk.runHandler s path info h argument =
      Walk.runHandler s.validating path info h argument := by
  rcases validates with rfl | rfl
  · rfl
  · rw [Walk.runHandler, Walk.runHandler]
    cases argument.as? PlainHandler.walkControl.sort <;> rfl

/-! ## Side by side -/

section walks

variable {base : Engine} {s : WalkSetting} {v : Value}

/-- A walk beside one of validation alone, both over one value, which they leave alone. -/
def walkBeside (base : Engine) (v : Value) : MonadRelation Walk Walk where
  Rel x y := ∀ state state', Abreast base.matched state state' → state'.root = v →
    ∃ result after after', x.run.run state = (result, after) ∧ y.run.run state' = (result, after') ∧
      Abreast base.matched after after' ∧ after'.root = v
  pure a state state' abreast is := ⟨.ok a, state, state', rfl, rfl, abreast, is⟩
  bind {α β x y f g} first second state state' abreast is := by
    obtain ⟨result, between, between', runs, runs', abreast, is⟩ := first state state' abreast is
    rw [run_bind, run_bind, runs, runs']
    cases result with
    | error e => exact ⟨.error e, between, between', rfl, rfl, abreast, is⟩
    | ok a => exact second a between between' abreast is

/-- What is paired with a step that shows its checks the value it walks leaves it alone. -/
theorem walkBeside_of_paired {α : Type} (outermost : s.outer = none) {x y : Walk α}
    (paired : (walkPairing base.matched).Rel x y) (shows : (walkShowing s v).Rel y y) :
    (walkBeside base v).Rel x y := by
  have sees : ∀ state : WalkState, s.Sees v state ↔ state.root = v := by
    intro state
    rw [WalkSetting.Sees, outermost, Option.getD_none]
  intro state state' abreast is
  obtain ⟨result, after, after', runs, runs', abreast'⟩ := paired state state' abreast
  have kept := (shows state' ((sees state').mpr is)).1
  rw [runs'] at kept
  exact ⟨result, after, after', runs, runs', abreast', (sees after').mp kept⟩

/-- The annotations of a type have the handlers in a registry that they have in validation. -/
def Engine.Handles (base : Engine) (registry : RegistryName) (type : RecordType) : Prop :=
  ∀ info ∈ type.fields, ∀ pair ∈ annotationPairs info.tag,
    (base.registryNamed registry).handlers.get? pair.name =
      base.validation.handlers.get? pair.name

variable (stock : ∀ name h, base.validation.handlers.get? name = some h → h.Validates)
  (outermost : s.outer = none) (nested : s.nested = validateNestedWithin v.depth)

include stock outermost nested

theorem related_validating (handles : v.EveryType (base.Handles s.registry)) :
    Conduct.Related (walkBeside base v) (base.Handles s.registry)
      (Walk.conduct Walk.runHandler s) (Walk.conduct Walk.runHandler s.validating) := by
  have journals := unjournaled_matched base
  have alike : Alike base.matched s.validating s.validating := by
    refine ⟨rfl, rfl, rfl, rfl, fun root u => ?_⟩
    rw [show s.validating.nested = _ from nested]
    exact paired_nested journals (dispatches_matched base .validation) v.depth root u
  have shows : ∀ u, Shows v (s.validating.nested (some v) u) := by
    intro u
    rw [show s.validating.nested = _ from nested]
    exact shows_nested v.depth v u
  have respects := respects_walkShowing rfl shows
  refine { look := fun path f f' next => ?_, config := ?_,
           attend := fun path type info handles mem => ?_, enclose := fun path x x' fields => ?_ }
  · intro state state' abreast is
    have read := next (state'.root.resolve path.steps) fun type fields looks => by
      obtain ⟨u, leads, view⟩ := Option.map_eq_some_iff.mp looks
      rw [is] at leads
      have every := Value.everyType_of_resolve leads handles
      rw [Value.eq_record_of_view view, Value.EveryType] at every
      exact every.1
    obtain ⟨result, after, after', runs, runs', rest⟩ := read state state' abreast is
    refine ⟨result, after, after', ?_, runs', rest⟩
    rw [← abreast.root] at runs
    exact runs
  · exact walkBeside_of_paired (s := s) outermost (paired_config journals)
      (walkShowing_quiet fun _ => ⟨rfl, rfl⟩)
  · refine walkBeside_of_paired (s := s.validating) outermost ?_ ((respects path).dispatch info _)
    refine Walk.dispatchBy_related _ fun pair among => ?_
    refine paired_annotation (unquote_of_mem_annotationPairs among) (handles info mem pair among) ?_
    intro h argument handler
    rw [runHandler_validating s path info (stock _ _ handler)]
    exact paired_runHandler journals alike path info h argument
  · intro state state' abreast is
    have own : (walkBeside base v).Rel (Walk.selfValidate s path state'.recorded)
        (Walk.selfValidate s.validating path state'.recorded) :=
      walkBeside_of_paired (s := s.validating) outermost (paired_selfValidate alike path _)
        ((respects path).selfValidate _)
    obtain ⟨result, after, after', runs, runs', rest⟩ :=
      (walkBeside base v).bind fields (fun _ => own) state state' abreast is
    refine ⟨result, after, after', ?_, runs', rest⟩
    rw [← abreast.recorded] at runs
    exact runs

/-- A walk whose annotations concern validation alone ends like validation alone, and leaves
the value as it was. -/
theorem walkValue_validating (handles : v.EveryType (base.Handles s.registry)) {w : Workspace}
    (same : base.Matches w.engine) :
    ∃ outcome failures, ((walkValue s v).run w).1 = ⟨outcome, v, failures⟩ ∧
      ((walkValue s.validating v).run w).1 = ⟨outcome, v, failures⟩ := by
  have related := related_validating stock outermost nested handles
  have walks := related.descend v.depth .root
  rw [Walk.descend_conduct, Walk.descend_conduct, Walk.descendBy_runHandler,
    Walk.descendBy_runHandler] at walks
  have start : Abreast base.matched { work := w, root := v } { work := w, root := v } :=
    ⟨⟨same, same⟩, rfl, rfl, rfl⟩
  obtain ⟨outcome, after, after', runs, runs', abreast, is⟩ := walks _ _ start rfl
  have ends : ∀ s : WalkSetting, ((walkValue s v).run w).1 =
      let left := (Walk.descend s v.depth .root).run.run { work := w, root := v }
      ⟨left.1, left.2.root, left.2.failures⟩ := fun _ => rfl
  refine ⟨outcome, after.failures, ?_, ?_⟩
  · rw [ends, runs]
    dsimp only
    rw [abreast.root, is]
  · rw [ends, runs']
    dsimp only
    rw [is, abreast.failures]

end walks

/-- What validation says of a structure is what came of its walk. -/
theorem answer_validateStruct (v : Value) (w : Workspace) :
    ((Engine.validateStruct v).run w).1 =
      let result :=
        ((Engine.walkWith .validation false w.engine.config.selfValidate none v).run w).1
      match result.outcome with
        | .error e => .error (.fatal e)
        | .ok () =>
          if result.failures.size = 0 then .ok () else .error (.fields result.failures) := by
  rw [Engine.validateStruct, StateT.run_bind, StateT.run_get, pure_bind, StateT.run_bind]
  generalize (Engine.walkWith _ _ _ _ _).run w = ran
  obtain ⟨⟨outcome, root, failures⟩, after⟩ := ran
  cases outcome with
  | error e => rfl
  | ok _ =>
    change ((if failures.size = 0 then pure (.ok ()) else pure (.error (.fields failures)) :
      Work (Except Refusal Unit)).run after).1 =
        if failures.size = 0 then .ok () else .error (.fields failures)
    split <;> rfl

/-- The three walks agree on a value if its annotations have the handlers of validation. -/
theorem walks_agree_of_handles {w : Workspace} (owns : w.engine.OwnsAll)
    (stock : ∀ name h, w.engine.validation.handlers.get? name = some h → h.Validates) {v : Value}
    (handles : v.EveryType (w.engine.Handles .full)) :
    ∃ outcome failures,
      ((Engine.walk false v).run w).1 = ⟨outcome, v, failures⟩ ∧
      ((Engine.walk true v).run w).1 = ⟨outcome, v, failures⟩ ∧
      ((Engine.validateStruct v).run w).1 = match outcome with
        | .error e => .error (.fatal e)
        | .ok () => if failures.size = 0 then .ok () else .error (.fields failures) := by
  have same : w.engine.Matches w.engine := ⟨owns, rfl, fun _ _ => rfl, fun _ => rfl⟩
  have walked : ∀ settable, ∃ outcome failures,
      ((Engine.walk settable v).run w).1 = ⟨outcome, v, failures⟩ ∧
      ((Engine.walkWith .validation false w.engine.config.selfValidate none v).run w).1 =
        ⟨outcome, v, failures⟩ := by
    intro settable
    let s : WalkSetting :=
      { registry := .full, settable, outer := none, selfValidate := w.engine.config.selfValidate,
        nested := validateNestedWithin v.depth }
    rw [Engine.walk, StateT.run_bind, StateT.run_get, pure_bind]
    exact walkValue_validating (s := s) stock rfl rfl handles same
  obtain ⟨outcome, failures, shared, validated⟩ := walked false
  obtain ⟨outcome', failures', exclusive, validated'⟩ := walked true
  cases validated.symm.trans validated'
  refine ⟨outcome, failures, shared, exclusive, ?_⟩
  rw [answer_validateStruct, validated]

/-! ## Engines with a history -/

/-- The operation registers a handler for a name. -/
def Operation.Registers (name : String) : Operation → Prop
  | request (.register other _) => other = name
  | _ => False

/-- A name without a handler stays without one until it is registered. -/
theorem unhandled_afterAll {operations : List Operation} {name : String}
    (unregistered : ∀ operation ∈ operations, ¬ operation.Registers name) {w : Workspace}
    (unhandled : w.engine.registry.handlers.get? name = none) :
    (w.afterAll operations).engine.registry.handlers.get? name = none := by
  have lasting := lasting_handler .full name none
  refine lasting.durable.afterAll (fun operation mem e is => ?_) unhandled
  cases operation with
  | request r =>
    cases r with
    | register other h =>
      refine (Table.get?_insert e.registry.handlers other h name).trans ?_
      rw [if_neg (show other ≠ name from unregistered _ mem)]
      exact is
    | unregister other =>
      refine (Table.get?_erase e.registry.handlers other name).trans ?_
      split
      · rfl
      · exact is
    | _ => exact is
  | addFunction f => exact is
  | addSymbol symbol value => exact is

/-- Besides the handlers of validation, an engine has two that assign. -/
theorem full_handler (config : Config) {name : String} (default : name ≠ "default")
    (set : name ≠ "set") :
    (Engine.new config).registry.handlers.get? name =
      (Engine.new config).validation.handlers.get? name := by
  have handlers : (Engine.new config).registry.handlers =
      ((Engine.new config).validation.handlers.insert "default" (.plain .defaults)).insert "set"
        (.plain .assignment) := rfl
  rw [handlers, Table.get?_insert, Table.get?_insert, if_neg set.symm, if_neg default.symm]

/-- Names other than those of validation have no handler there. -/
theorem validation_handler_of_ne {config : Config} {name : String}
    (validate : name ≠ config.validateTag) (walk : name ≠ config.walkTag) :
    (Engine.new config).validation.handlers.get? name = none := by
  have found := validation_handler ⟨config, {}, {}⟩ name
  rw [if_neg walk, if_neg validate] at found
  exact found

/-- What the annotations of a value may be called for all walks to agree on it. -/
def Value.OnlyValidated (operations : List Operation) (v : Value) : Prop :=
  v.EveryType fun type => ∀ info ∈ type.fields, ∀ pair ∈ annotationPairs info.tag,
    pair.name ≠ "default" ∧ pair.name ≠ "set" ∧
      ∀ operation ∈ operations, ¬ operation.Registers pair.name

theorem handles_afterAll {config : Config} {operations : List Operation}
    (stock : ∀ operation ∈ operations,
      ¬ operation.Replaces config.validateTag ∧ ¬ operation.Replaces config.walkTag)
    {v : Value} (plain : v.OnlyValidated operations) :
    v.EveryType ((({ engine := .new config } : Workspace).afterAll operations).engine.Handles
      .full) := by
  refine Value.everyType_mono (fun type plain info mem pair among => ?_) plain
  obtain ⟨default, set, unregistered⟩ := plain info mem pair among
  have initial := full_handler config default set
  rw [validation_afterAll]
  by_cases validate : pair.name = config.validateTag
  · rw [validate] at initial ⊢
    exact (handlers_afterAll (fun operation mem => (stock operation mem).1) _).trans initial
  · by_cases walk : pair.name = config.walkTag
    · rw [walk] at initial ⊢
      exact (handlers_afterAll (fun operation mem => (stock operation mem).2) _).trans initial
    · have none := validation_handler_of_ne validate walk
      have kept := unhandled_afterAll (w := { engine := .new config }) unregistered
        (initial.trans none)
      exact kept.trans none.symm

/-- Whatever an engine has been through, as long as the handlers of validation are still in
place: for a value whose annotations have no other handlers, a walk that may change it, one
that may not, and validation alone find the same, be it failures or an error that ends them
early, and the value stays as it was. -/
theorem walks_agree (config : Config) (operations : List Operation)
    (stock : ∀ operation ∈ operations,
      ¬ operation.Replaces config.validateTag ∧ ¬ operation.Replaces config.walkTag)
    (v : Value) (plain : v.OnlyValidated operations) :
    let w := ({ engine := .new config } : Workspace).afterAll operations
    ∃ outcome failures,
      ((Engine.walk false v).run w).1 = ⟨outcome, v, failures⟩ ∧
      ((Engine.walk true v).run w).1 = ⟨outcome, v, failures⟩ ∧
      ((Engine.validateStruct v).run w).1 = match outcome with
        | .error e => .error (.fatal e)
        | .ok () => if failures.size = 0 then .ok () else .error (.fields failures) := by
  intro w
  have nothing : ∀ registry, ((Engine.new config).registryNamed registry).arguments = .empty := by
    intro registry
    cases registry <;> rfl
  have owns : w.engine.OwnsAll := (secure_afterAll (w := { engine := .new config }) nothing _).owns
  have validates : ∀ name h, w.engine.validation.handlers.get? name = some h → h.Validates := by
    intro name h handler
    rw [validation_afterAll] at handler
    exact validates_of_validation config handler
  exact walks_agree_of_handles owns validates (handles_afterAll stock plain)

/-- A structure in a list that breaks a rule, in an engine that has got a handler and a symbol
and has walked the structure before. -/
theorem walks_agree_of_list :
    let leaf : RecordType :=
      { name := "Leaf", fields := [{ name := "size", tag := "validate:\"max==limit\"" }] }
    let tree : RecordType :=
      { name := "Tree", fields := [{ name := "leaves", tag := "walk:\"true\"" }] }
    let v : Value := .record tree [.seq [.record leaf [.text "long"]]]
    let notes : PlainHandler := { sort := .text, parse := .ok, run := fun _ _ => {} }
    let operations : List Operation := [.addSymbol "limit" (.int 3),
      .request (.register "note" (.plain notes)), .request (.walk true v),
      .addSymbol "limit" (.int 5)]
    let w := ({ engine := .new {} } : Workspace).afterAll operations
    (∀ operation ∈ operations, ¬ operation.Replaces "validate" ∧ ¬ operation.Replaces "walk") ∧
      v.OnlyValidated operations ∧
      ((Engine.walk true v).run w).1.failures.keys = ["leaves[0].size"] ∧
      ∃ outcome failures,
        ((Engine.walk false v).run w).1 = ⟨outcome, v, failures⟩ ∧
        ((Engine.walk true v).run w).1 = ⟨outcome, v, failures⟩ ∧
        ((Engine.validateStruct v).run w).1 = match outcome with
          | .error e => .error (.fatal e)
          | .ok () => if failures.size = 0 then .ok () else .error (.fields failures) := by
  intro leaf tree v notes operations w
  have stock : ∀ operation ∈ operations,
      ¬ operation.Replaces "validate" ∧ ¬ operation.Replaces "walk" := by
    simp [operations, Operation.Replaces, Request.Replaces]
  have leafPairs : ∀ pair ∈ annotationPairs "validate:\"max==limit\"", pair.name = "validate" := by
    decide +kernel
  have treePairs : ∀ pair ∈ annotationPairs "walk:\"true\"", pair.name = "walk" := by
    decide +kernel
  have plain : v.OnlyValidated operations := by
    simp only [Value.OnlyValidated, v, tree, leaf, Value.EveryType, Value.EveryTypeIn,
      List.forall_mem_singleton, and_true]
    refine ⟨fun pair among => ?_, fun pair among => ?_⟩
    · rw [treePairs pair among]
      simp [operations, Operation.Registers]
    · rw [leafPairs pair among]
      simp [operations, Operation.Registers]
  refine ⟨stock, plain, by decide +kernel, ?_⟩
  exact walks_agree {} operations stock v plain

end RecordRules

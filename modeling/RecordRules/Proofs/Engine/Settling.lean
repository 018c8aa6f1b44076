import RecordRules.Proofs.Engine.Agreement
import RecordRules.Proofs.Engine.Sweeping

/-!
# Defaults settle

A walk may assign to fields that are zero, and to fields whatever they are.  When it has gone
well once, a second walk finds nothing more to assign: it goes well, too, and leaves the value
as it is.

There are two provisos.  What else the handlers do must not depend on what has been assigned.
And a field that was spared by an annotation for zero fields, because it was not zero, may have
been made zero later in the walk: the second walk then assigns to it what the first one never
tried to, and this may fail.
-/

namespace RecordRules

/-! ## Handlers that come to acts -/

/-- A handler that assigns nothing, and whose verdict depends on nothing that an assignment may
change. -/
structure PlainHandler.Steady (h : PlainHandler) : Prop where
  unassigning (payload : h.sort.Payload) (f : FieldView) : (h.run payload f).assign = none
  verdict (payload : h.sort.Payload) {f g : FieldView} : f.info = g.info → f.path = g.path →
    f.outer = g.outer → f.settable = g.settable → f.value.isSome = g.value.isSome →
    (h.run payload f).verdict = (h.run payload g).verdict

/-- The handler of an annotation with a text assigns that text, to any field or to one that is
zero, or it assigns nothing and is steady. -/
inductive Handler.Suits (text : String) : Handler → Prop
  | validate (shared : Bool) : Suits text (.validate shared)
  | defaults : text.toList.head? ≠ some '.' → Suits text (.plain .defaults)
  | assignment : text.toList.head? ≠ some '.' → Suits text (.plain .assignment)
  | steady {h : PlainHandler} : h.Steady → Suits text (.plain h)

/-- The settings of a walk with all handlers that may change the value. -/
structure WalkSetting.Changing (s : WalkSetting) : Prop where
  registry : s.registry = .full
  settable : s.settable = true
  outer : s.outer = none
  nested : ∃ levels, s.nested = validateNestedWithin levels

/-- A part of a walk with an engine that matches another one, and what it does to the value. -/
def shadowing (base : Engine) : MonadRelation Walk (Tour Value) where
  Rel x y := ∀ state : WalkState, base.Matches state.work.engine →
    y state.root = ⟨(x.run.run state).1, (x.run.run state).2.root, []⟩ ∧
      base.Matches (x.run.run state).2.work.engine
  pure _ _ same := ⟨rfl, same⟩
  bind {α β x y f g} first second state same := by
    obtain ⟨is, same⟩ := first state same
    rw [run_bind, Tour.bind_apply, is]
    generalize x.run.run state = after at same ⊢
    obtain ⟨result, between⟩ := after
    cases result with
    | error e => exact ⟨rfl, same⟩
    | ok a =>
      obtain ⟨is', same'⟩ := second a between same
      dsimp only
      rw [is']
      exact ⟨rfl, same'⟩

section acts

variable {base : Engine} {s : WalkSetting} {path : FieldPath} {info : FieldInfo}

theorem shadow_throw {α : Type} (e : Fatal) :
    (shadowing base).Rel (throw e : Walk α) fun root => ⟨.error e, root, []⟩ :=
  fun _ same => ⟨rfl, same⟩

theorem shadow_verdict (verdict : Except Fatal Verdict) :
    (shadowing base).Rel (liftM verdict : Walk Verdict) fun root => ⟨verdict, root, []⟩ := by
  cases verdict with
  | error e => exact shadow_throw e
  | ok verdict => exact (shadowing base).pure verdict

/-- Recording failures concerns neither the value nor the engine. -/
theorem shadow_records (name : String) (failures : List Failure) :
    (shadowing base).Rel (failures.forM (Walk.record name)) (pure ()) := by
  induction failures with
  | nil => exact (shadowing base).pure _
  | cons e failures ih =>
    have first : (shadowing base).Rel (Walk.record name e) (pure ()) := fun _ same => ⟨rfl, same⟩
    have both := (shadowing base).bind first fun _ => ih
    rwa [pure_bind] at both

/-- Of a reaction, only the assignment and the verdict count. -/
theorem shadow_react {reaction : Reaction} {y : Tour Value Verdict}
    (counts : (shadowing base).Rel (do
      match reaction.assign with
      | some l => Walk.assign s path l
      | none => pure ()
      reaction.verdict) y) :
    (shadowing base).Rel (Walk.react s path reaction) y := by
  have notes : (shadowing base).Rel
      (Walk.work (modify fun w => { w with notes := reaction.notes.reverse ++ w.notes }))
      (pure ()) := fun _ same => ⟨rfl, same⟩
  have all := (shadowing base).bind notes fun _ =>
    (shadowing base).bind (shadow_records path.name reaction.failures) fun _ => counts
  rwa [pure_bind, pure_bind] at all

/-- Assigning a text is an act. -/
theorem shadow_assign (changing : s.Changing) (path : FieldPath) (text : String) :
    (shadowing base).Rel (do
      Walk.assign s path (.str text)
      return .descend) (Act.put path.grip path.name text) := by
  intro state same
  rw [run_bind, Walk.assign, changing.settable, Bool.not_true, if_neg Bool.false_ne_true, run_get]
  have assigns : path.grip.assign (.str text) state.root =
      state.root.update (Value.set (.str text)) path.steps := rfl
  rw [Act.put, assigns]
  cases state.root.update (Value.set (.str text)) path.steps with
  | none => exact ⟨rfl, same⟩
  | some changed =>
    obtain ⟨outcome, root⟩ := changed
    cases outcome with
    | ok _ => exact ⟨rfl, same⟩
    | error e => exact ⟨rfl, same⟩

theorem as?_self (sort : ArgumentSort) (payload : sort.Payload) :
    Prepared.as? ⟨sort, payload⟩ sort = some payload :=
  dif_pos rfl

/-- A text without a point in front is a literal. -/
theorem parse_literal {text : String} (literal : text.toList.head? ≠ some '.') :
    Source.parse text = .ok (.text text) := by
  rw [Source.parse]
  split
  · next rest is => simp [is] at literal
  · rfl

theorem run_resolve {α : Type} (path : FieldPath) (f : Option Value → Walk α) (state : WalkState) :
    (Walk.resolve path >>= f).run.run state =
      (f (state.root.resolve path.steps)).run.run state :=
  rfl

/-- What validation comes to: it ends the walk only if the field does not show itself. -/
def Act.validation (validator : Validator) (name : String) : Act :=
  .keep fun shown =>
    if shown then .ok (if validator.descends then .skip else .descend)
    else .error (.unresolved name)

/-- Whatever validation finds, it leaves the value as it is. -/
theorem shadow_validateField (changing : s.Changing) (path : FieldPath) (validator : Validator) :
    (shadowing base).Rel (Walk.validateField s path validator)
      ((Act.validation validator path.name).run path.grip path.name) := by
  obtain ⟨levels, nested⟩ := changing.nested
  have journals := unjournaled_matched base
  have alike : ∀ root v, (pairing base.matched).Rel (s.nested root v) (s.nested root v) := by
    rw [nested]
    exact paired_nested journals (dispatches_matched base .validation) levels
  intro state same
  rw [Walk.validateField, run_resolve, Act.validation, Act.run_keep]
  change Trip.mk (if (state.root.resolve path.steps).isSome then _ else _) _ _ = _ ∧ _
  cases state.root.resolve path.steps with
  | none => exact ⟨rfl, same⟩
  | some value =>
    obtain ⟨outcome, after, _, runs, -, related⟩ :=
      paired_validator journals alike validator (some (s.outer.getD state.root)) value
        state.work state.work ⟨same, same⟩
    dsimp only
    rw [run_get, run_bind, run_work, runs]
    cases outcome with
    | ok _ => exact ⟨rfl, related.1⟩
    | error e => exact ⟨rfl, related.1⟩

/-- What a handler sees of a field in a state. -/
def WalkState.view (state : WalkState) (s : WalkSetting) (path : FieldPath) (info : FieldInfo) :
    FieldView where
  info
  path := path.name
  value := state.root.resolve path.steps
  root := state.root
  outer := s.outer
  settable := s.settable
  failures := state.failures.size

/-- What a plain handler does is its reaction to what it sees. -/
theorem shadow_plain {h : PlainHandler} {payload : h.sort.Payload} {act : Act}
    (reacts : ∀ state : WalkState, ∃ y,
      (shadowing base).Rel (Walk.react s path (h.run payload (state.view s path info))) y ∧
        y state.root = act.run path.grip path.name state.root) :
    (shadowing base).Rel (Walk.runHandler s path info (.plain h) ⟨h.sort, payload⟩)
      (act.run path.grip path.name) := by
  intro state same
  obtain ⟨y, shadows, is⟩ := reacts state
  have ran := shadows state same
  rw [is] at ran
  rw [Walk.runHandler, as?_self]
  exact ran

/-- The handler for zero fields comes to an act. -/
theorem shadow_defaults (changing : s.Changing) (path : FieldPath) (info : FieldInfo)
    (text : String) :
    (shadowing base).Rel
      (Walk.runHandler s path info (.plain .defaults) ⟨.source, Source.text text⟩)
      ((Act.fill text).run path.grip path.name) := by
  refine shadow_plain fun state => ?_
  have looks : path.grip.look state.root = state.root.resolve path.steps := rfl
  rw [Act.run_fill, looks]
  cases value : state.root.resolve path.steps with
  | none =>
    have reaction : PlainHandler.defaults.run (Source.text text) (state.view s path info) =
        { verdict := .error (.unresolved path.name) } := by
      simp only [PlainHandler.defaults, WalkState.view, value, FieldView.unresolved]
    rw [reaction]
    exact ⟨_, shadow_react (shadow_throw (.unresolved path.name)), rfl⟩
  | some v =>
    cases zero : v.isZero with
    | true =>
      have reaction : PlainHandler.defaults.run (Source.text text) (state.view s path info) =
          { assign := some (.str text) } := by
        simp only [PlainHandler.defaults, WalkState.view, value, zero, if_true]
        rfl
      rw [reaction]
      refine ⟨_, shadow_react (shadow_assign changing path text), ?_⟩
      dsimp only
      rw [if_pos zero]
    | false =>
      have reaction : PlainHandler.defaults.run (Source.text text) (state.view s path info) =
          {} := by
        simp only [PlainHandler.defaults, WalkState.view, value, zero, Bool.false_eq_true, if_false]
      rw [reaction]
      refine ⟨_, shadow_react ((shadowing base).pure Verdict.descend), ?_⟩
      dsimp only
      rw [zero, if_neg Bool.false_ne_true]
      rfl

/-- What a handler that is steady may see of a field: whether it shows a value. -/
def FieldView.blank (name : String) (info : FieldInfo) (shown : Bool) : FieldView where
  info := info
  path := name
  value := if shown then some default else none
  root := default
  outer := none
  settable := true
  failures := 0

/-- What a steady handler comes to. -/
def PlainHandler.act (h : PlainHandler) (payload : h.sort.Payload) (name : String)
    (info : FieldInfo) : Act :=
  .keep fun shown => (h.run payload (.blank name info shown)).verdict

theorem shadow_steady (changing : s.Changing) (path : FieldPath) (info : FieldInfo)
    {h : PlainHandler} (steady : h.Steady) (payload : h.sort.Payload) :
    (shadowing base).Rel (Walk.runHandler s path info (.plain h) ⟨h.sort, payload⟩)
      ((h.act payload path.name info).run path.grip path.name) := by
  refine shadow_plain fun state => ?_
  have verdict := steady.verdict payload (f := state.view s path info)
    (g := .blank path.name info (path.grip.look state.root).isSome)
    rfl rfl changing.outer changing.settable (by
      change (path.grip.look state.root).isSome = _
      cases path.grip.look state.root <;> rfl)
  rw [PlainHandler.act, Act.run_keep, ← verdict]
  refine ⟨fun root => ⟨(h.run payload (state.view s path info)).verdict, root, []⟩,
    shadow_react ?_, rfl⟩
  rw [steady.unassigning]
  exact shadow_verdict _

/-- A handler that suits an annotation comes to an act for each field. -/
theorem exists_act_of_handler {text : String} {h : Handler} (suits : h.Suits text)
    {argument : Prepared} (reads : base.read text h = .ok argument) (path : FieldPath)
    (info : FieldInfo) :
    ∃ act, (∀ t, act = Act.fill t → t = text ∧ h = .plain .defaults) ∧
      ∀ s : WalkSetting, s.Changing →
        (shadowing base).Rel (Walk.runHandler s path info h argument)
          (act.run path.grip path.name) := by
  cases suits with
  | validate shared =>
    rw [Engine.read] at reads
    split at reads
    · next validator _ =>
      cases reads
      refine ⟨.validation validator path.name, fun _ is => (by cases is), fun s changing => ?_⟩
      exact shadow_validateField changing path validator
    · cases reads
  | defaults literal =>
    rw [Engine.read, show PlainHandler.defaults.parse text = _ from parse_literal literal] at reads
    cases reads
    refine ⟨.fill text, fun t is => ⟨(Act.fill.inj is).symm, rfl⟩, fun s changing => ?_⟩
    exact shadow_defaults changing path info text
  | assignment literal =>
    rw [Engine.read,
      show PlainHandler.assignment.parse text = _ from parse_literal literal] at reads
    cases reads
    refine ⟨.assign text, fun _ is => (by cases is), fun s changing => shadow_plain fun state => ?_⟩
    exact ⟨_, shadow_react (shadow_assign changing path text), rfl⟩
  | @steady h steady =>
    rw [Engine.read] at reads
    cases parsed : h.parse text with
    | error e =>
      rw [parsed] at reads
      cases reads
    | ok payload =>
      rw [parsed] at reads
      cases reads
      refine ⟨h.act payload path.name info, fun _ is => (by cases is), fun s changing => ?_⟩
      exact shadow_steady changing path info steady payload

/-- An annotation runs its handler with what the handler reads from its text. -/
theorem annotation_of_matches (changing : s.Changing) {pair : Pair}
    (unquoted : unquote pair.quoted = .ok pair.value) {h : Handler}
    (handler : base.registry.handlers.get? pair.name = some h) {state : WalkState}
    (same : base.Matches state.work.engine) :
    ∃ work, base.Matches work.engine ∧
      (Walk.annotation Walk.runHandler s path info pair).run.run state =
        ((liftM ((base.read pair.value h).mapError (Fatal.malformed pair.name pair.value)) :
          Walk Prepared) >>= Walk.runHandler s path info h).run.run { state with work } := by
  have registered : (base.registryNamed s.registry).handlers.get? pair.name = some h := by
    rw [changing.registry]
    exact handler
  obtain ⟨work, argues, kept⟩ := argumentOf_of_matches s same registered unquoted
  refine ⟨work, kept, ?_⟩
  rw [Walk.annotation, run_get, same.handlers, registered]
  dsimp only
  rw [run_bind, argues]
  cases (base.read pair.value h).mapError (Fatal.malformed pair.name pair.value) <;> rfl

/-- An annotation with a handler that suits it, or with none, comes to an act. -/
theorem exists_act {pair : Pair} (unquoted : unquote pair.quoted = .ok pair.value)
    (suits : ∀ h, base.registry.handlers.get? pair.name = some h → h.Suits pair.value)
    (path : FieldPath) (info : FieldInfo) :
    ∃ act, (∀ text, act = Act.fill text → text = pair.value ∧
        base.registry.handlers.get? pair.name = some (.plain .defaults)) ∧
      ∀ s : WalkSetting, s.Changing →
        (shadowing base).Rel (Walk.annotation Walk.runHandler s path info pair)
          (act.run path.grip path.name) := by
  cases handler : base.registry.handlers.get? pair.name with
  | none =>
    refine ⟨.keep fun _ => .ok .descend, fun _ is => (by cases is),
      fun s changing state same => ?_⟩
    have unregistered : (base.registryNamed s.registry).handlers.get? pair.name = none := by
      rw [changing.registry]
      exact handler
    rw [Walk.annotation, run_get, same.handlers, unregistered]
    exact ⟨rfl, same⟩
  | some h =>
    cases reads : base.read pair.value h with
    | error cause =>
      refine ⟨.fail (.malformed pair.name pair.value cause), fun _ is => (by cases is),
        fun s changing state same => ?_⟩
      obtain ⟨work, kept, runs⟩ := annotation_of_matches changing unquoted handler same
      rw [runs, reads]
      exact ⟨rfl, kept⟩
    | ok argument =>
      obtain ⟨act, fills, shadows⟩ := exists_act_of_handler (suits h handler) reads path info
      refine ⟨act, fun t is => ?_, fun s changing state same => ?_⟩
      · obtain ⟨rfl, rfl⟩ := fills t is
        exact ⟨rfl, rfl⟩
      · obtain ⟨work, kept, runs⟩ := annotation_of_matches changing unquoted handler same
        rw [runs, reads]
        exact shadows s changing { state with work } kept

/-- Annotations with handlers that suit them come to acts. -/
theorem exists_acts {pairs : List Pair}
    (unquoted : ∀ pair ∈ pairs, unquote pair.quoted = .ok pair.value)
    (suits : ∀ pair ∈ pairs, ∀ h, base.registry.handlers.get? pair.name = some h →
      h.Suits pair.value)
    (path : FieldPath) (info : FieldInfo) :
    ∃ acts, (∀ text, Act.fill text ∈ acts → ∃ pair ∈ pairs, text = pair.value ∧
        base.registry.handlers.get? pair.name = some (.plain .defaults)) ∧
      ∀ s : WalkSetting, s.Changing →
        (shadowing base).Rel (Walk.dispatchBy Walk.runHandler s path info pairs)
          (Act.runAll path.grip path.name acts) := by
  induction pairs with
  | nil => exact ⟨[], fun _ mem => absurd mem List.not_mem_nil, fun s _ => (shadowing base).pure _⟩
  | cons pair pairs ih =>
    rw [List.forall_mem_cons] at unquoted suits
    obtain ⟨act, fills, shadows⟩ := exists_act unquoted.1 suits.1 path info
    obtain ⟨acts, fill, shadow⟩ := ih unquoted.2 suits.2
    refine ⟨act :: acts, fun text mem => ?_, fun s changing => ?_⟩
    · rcases List.mem_cons.mp mem with is | mem
      · exact ⟨pair, List.mem_cons_self, fills text is.symm⟩
      · obtain ⟨other, among, facts⟩ := fill text mem
        exact ⟨other, List.mem_cons_of_mem _ among, facts⟩
    · refine (shadowing base).bind (shadows s changing) fun verdict => ?_
      exact (shadowing base).bind (shadow s changing) fun _ => (shadowing base).pure _

end acts

/-! ## Walks that come to sweeps -/

/-- The handlers of the annotations of a field suit them. -/
def Engine.Suits (e : Engine) (info : FieldInfo) : Prop :=
  ∀ pair ∈ annotationPairs info.tag, ∀ h, e.registry.handlers.get? pair.name = some h →
    h.Suits pair.value

/-- The error that ends a sweep where handlers do not suit. -/
def strayed : Fatal :=
  .custom ""

/-- A walk with an engine that matches another one, and the sweep that it comes to: unless it
stops at a field whose handlers do not suit, where the sweep ends. -/
def sweeping (base : Engine) : MonadRelation (Tour WalkState) (Tour Value) where
  Rel x y := ∀ state : WalkState, base.Matches state.work.engine →
    y state.root = ⟨(x state).result, (x state).state.root, (x state).stops⟩ ∧
        base.Matches (x state).state.work.engine ∨
      (y state.root).result = .error strayed ∧
        ∃ stop ∈ (x state).stops, ∃ info, stop.field = some info ∧ ¬ base.Suits info
  pure _ _ same := .inl ⟨rfl, same⟩
  bind {α β x y f g} first second state same := by
    rw [Tour.bind_apply, Tour.bind_apply]
    rcases first state same with ⟨is, same⟩ | ⟨is, stop, mem, stray⟩
    · rw [is]
      generalize x state = trip at same ⊢
      obtain ⟨result, between, stops⟩ := trip
      cases result with
      | error e => exact .inl ⟨rfl, same⟩
      | ok a =>
        rcases second a between same with ⟨is', same'⟩ | ⟨is', stop, mem, stray⟩
        · dsimp only
          rw [is']
          exact .inl ⟨rfl, same'⟩
        · exact .inr ⟨is', stop, List.mem_append_right _ mem, stray⟩
    · refine .inr ⟨?_, stop, ?_, stray⟩
      · generalize y state.root = trip at is ⊢
        obtain ⟨result, between, stops⟩ := trip
        subst is
        rfl
      · generalize x state = trip at mem ⊢
        obtain ⟨result, between, stops⟩ := trip
        cases result with
        | error e => exact mem
        | ok a => exact List.mem_append_left _ mem

section sweeps

variable {base : Engine} {s : WalkSetting} {acts : FieldPath → FieldInfo → List Act}

/-- What a part of a walk does without a log. -/
theorem sweeping_lift {α : Type} {x : Walk α} {y : Tour Value α}
    (shadows : (shadowing base).Rel x y) : (sweeping base).Rel (.lift x) y :=
  fun state same => .inl (shadows state same)

theorem sweeping_stop (path : FieldPath) (field : Option FieldInfo) :
    (sweeping base).Rel (.stop path field) (.stop path field) :=
  fun _ same => .inl ⟨rfl, same⟩

/-- The own check of a structure concerns neither the value nor the engine. -/
theorem shadow_selfValidate (s : WalkSetting) (path : FieldPath) (before : Nat) :
    (shadowing base).Rel (Walk.selfValidate s path before) (pure ()) := by
  intro state same
  rw [Walk.selfValidate, run_get]
  split
  · rw [run_resolve]
    cases state.root.resolve path.steps with
    | none => exact ⟨rfl, same⟩
    | some v =>
      dsimp only
      cases v.selfCheck <;> exact ⟨rfl, same⟩
  · exact ⟨rfl, same⟩

/-- Acts that the annotations of fields come to. -/
structure Engine.Acts (base : Engine) (acts : FieldPath → FieldInfo → List Act) : Prop where
  shadow (path : FieldPath) (info : FieldInfo) : base.Suits info → ∀ s : WalkSetting, s.Changing →
    (shadowing base).Rel
      (Walk.dispatchBy Walk.runHandler s path info (annotationPairs info.tag))
      (Act.runAll path.grip path.name (acts path info))
  fill (path : FieldPath) (info : FieldInfo) (text : String) : Act.fill text ∈ acts path info →
    ∃ pair ∈ annotationPairs info.tag, text = pair.value ∧
      base.registry.handlers.get? pair.name = some (.plain .defaults)
  stray (path : FieldPath) (info : FieldInfo) : ¬ base.Suits info → acts path info = [.fail strayed]

theorem exists_engine_acts (base : Engine) : ∃ acts, base.Acts acts := by
  have each : ∀ (path : FieldPath) (info : FieldInfo), ∃ acts : List Act,
      (base.Suits info → ∀ s : WalkSetting, s.Changing →
        (shadowing base).Rel
          (Walk.dispatchBy Walk.runHandler s path info (annotationPairs info.tag))
          (Act.runAll path.grip path.name acts)) ∧
      (∀ text, Act.fill text ∈ acts → ∃ pair ∈ annotationPairs info.tag, text = pair.value ∧
        base.registry.handlers.get? pair.name = some (.plain .defaults)) ∧
      (¬ base.Suits info → acts = [.fail strayed]) := by
    intro path info
    by_cases suits : base.Suits info
    · obtain ⟨acts, fill, shadow⟩ :=
        exists_acts (fun _ => unquote_of_mem_annotationPairs) suits path info
      exact ⟨acts, fun _ => shadow, fill, fun stray => absurd suits stray⟩
    · refine ⟨[.fail strayed], fun suits' => absurd suits' suits, fun text mem => ?_, fun _ => rfl⟩
      simp at mem
  choose acts shadow fill stray using each
  exact ⟨acts, shadow, fill, stray⟩

/-- A walk that may change the value comes to a sweep. -/
theorem related_sweep (changing : s.Changing) (are : base.Acts acts) :
    Conduct.Related (sweeping base) (fun _ => True) (Walk.tour s) (sweep base.config acts) where
  look path f f' next := by
    have looks : (shadowing base).Rel (Walk.resolve path) ((sweep base.config acts).look path) :=
      fun _ same => ⟨rfl, same⟩
    exact (sweeping base).bind (sweeping_lift looks) fun value => next value fun _ _ _ => trivial
  config := sweeping_lift fun state same => by
    have is : state.work.engine.config = base.config := same.config
    refine ⟨?_, same⟩
    change (⟨.ok base.config, _, _⟩ : Trip Value Config) = ⟨.ok state.work.engine.config, _, _⟩
    rw [is]
    rfl
  attend path type info _ _ := by
    by_cases suits : base.Suits info
    · exact (sweeping base).bind (sweeping_stop path (some info)) fun _ =>
        sweeping_lift (are.shadow path info suits s changing)
    · intro state same
      refine .inr ⟨?_, ⟨path, some info⟩, List.mem_cons_self, info, rfl, suits⟩
      change (Act.runAll path.grip path.name (acts path info) state.root).result = _
      rw [are.stray path info suits]
      rfl
  enclose path x x' fields := by
    have own : ∀ before, (sweeping base).Rel (do
        .stop path none
        .lift (Walk.selfValidate s path before)) (.stop path none : Tour Value Unit) := by
      intro before
      have both := (sweeping base).bind (sweeping_stop path none) fun _ =>
        sweeping_lift (shadow_selfValidate s path before)
      rwa [bind_pure] at both
    intro state same
    exact (sweeping base).bind fields (fun _ => own state.recorded) state same

/-- A walk of a whole value comes to a sweep of it. -/
theorem sweeping_tourWith (are : base.Acts acts) (selfValidate : Bool) (v : Value) {w : Workspace}
    (same : base.Matches w.engine) :
    let trip := Engine.tourWith .full true selfValidate none v w
    let swept := (sweep base.config acts).descend v.depth .root v
    swept = ⟨trip.result, trip.state.root, trip.stops⟩ ∧ base.Matches trip.state.work.engine ∨
      swept.result = .error strayed ∧
        ∃ stop ∈ trip.stops, ∃ info, stop.field = some info ∧ ¬ base.Suits info := by
  let s : WalkSetting :=
    { registry := .full, settable := true, outer := none, selfValidate,
      nested := validateNestedWithin v.depth }
  have changing : s.Changing := ⟨rfl, rfl, rfl, _, rfl⟩
  exact (related_sweep changing are).descend v.depth .root { work := w, root := v } same

end sweeps

/-! ## Defaults -/

/-- The error tells that a field at one of the stops was not zero, has been made zero, and
cannot take the text of an annotation for zero fields. -/
def Engine.Emptied (e : Engine) (stops : List Stop) (v v' : Value) (error : Fatal) : Prop :=
  ∃ stop ∈ stops, ∃ info, stop.field = some info ∧ ∃ pair ∈ annotationPairs info.tag,
    e.registry.handlers.get? pair.name = some (.plain .defaults) ∧
      ∃ x x' cause, v.resolve stop.path.steps = some x ∧ x.isZero = false ∧
        v'.resolve stop.path.steps = some x' ∧ x'.isZero = true ∧
        (x'.set (.str pair.value)).1 = .error cause ∧ error = .assignment stop.path.name cause

/-- A walk with all handlers is a tour. -/
theorem run_walk (settable : Bool) (v : Value) (w : Workspace) :
    (Engine.walk settable v).run w =
      let trip := Engine.tourWith .full settable w.engine.config.selfValidate none v w
      (⟨trip.result, trip.state.root, trip.state.failures⟩, trip.state.work) := by
  rw [Engine.walk, StateT.run_bind, StateT.run_get, pure_bind, run_walkWith]

section walks

variable {base : Engine} {acts : FieldPath → FieldInfo → List Act} {v v' : Value}

/-- The sweep that walks with an engine come to, and the fields where one of them has stopped. -/
def Engine.plan (base : Engine) (acts : FieldPath → FieldInfo → List Act) (stops : List Stop) :
    Plan where
  config := base.config
  acts
  seen path info := ⟨path, some info⟩ ∈ stops

/-- A walk that has gone well has settled the value. -/
theorem settled_tourWith (are : base.Acts acts) (selfValidate : Bool) {w : Workspace}
    (same : base.Matches w.engine) :
    let trip := Engine.tourWith .full true selfValidate none v w
    (∀ stop ∈ trip.stops, ∀ info, stop.field = some info → base.Suits info) →
      trip.result = .ok () →
      (base.plan acts trip.stops).Settled .root true v trip.state.root ∧
        base.Matches trip.state.work.engine := by
  intro trip suits ok
  rcases sweeping_tourWith are selfValidate v same with ⟨swept, matched⟩ | strays
  · have sweeps : (base.plan acts trip.stops).descend v.depth .root (id v) =
        ⟨trip.result, trip.state.root, trip.stops⟩ := swept
    have sees : (base.plan acts trip.stops).Sees trip.stops := by
      rintro ⟨path, _⟩ mem info rfl
      exact mem
    have settled := settles (base.plan acts trip.stops) v.depth .root id true v Value.context_root
      (Nat.le_refl _)
    rw [sweeps] at settled
    obtain ⟨_, rfl, settled⟩ := settled ok sees
    exact ⟨settled, matched⟩
  · obtain ⟨-, stop, mem, info, field, stray⟩ := strays
    exact absurd (suits stop mem info field) stray

/-- A walk of a settled value goes well and leaves it as it is, unless a field has been
emptied. -/
theorem tourWith_settled (are : base.Acts acts) (selfValidate : Bool) {stops : List Stop}
    (settled : (base.plan acts stops).Settled .root true v v') {w : Workspace}
    (same : base.Matches w.engine) :
    let trip := Engine.tourWith .full true selfValidate none v' w
    trip.result = .ok () ∧ trip.state.root = v' ∨
      ∃ e, trip.result = .error e ∧ base.Emptied stops v v' e := by
  intro trip
  have again := settled.again v'.depth (Nat.le_refl _) id Value.context_root
  have known : ∀ e, (base.plan acts stops).Emptied .root v v' e → base.Emptied stops v v' e := by
    rintro e ⟨place, info, rest, x, x', steps, seen, leads, leads', text, cause, mem, facts⟩
    obtain rfl : place.steps = rest := steps
    obtain ⟨pair, among, rfl, handler⟩ := are.fill place info text mem
    exact ⟨_, seen, info, rfl, pair, among, handler, x, x', cause, leads, facts.1, leads', facts.2⟩
  rcases sweeping_tourWith are selfValidate v' same with ⟨swept, -⟩ | ⟨strays, -⟩
  · have sweeps : (base.plan acts stops).descend v'.depth .root (id v') =
        ⟨trip.result, trip.state.root, trip.stops⟩ := swept
    rw [Tour.Arrives, sweeps] at again
    rcases again with well | ⟨e, error, emptied⟩
    · exact .inl well
    · exact .inr ⟨e, error, known e emptied⟩
  · -- The second sweep never strays: it ends well or with the error of an assignment.
    have sweeps : ((base.plan acts stops).descend v'.depth .root (id v')).result =
        .error strayed := strays
    rw [Tour.Arrives, sweeps] at again
    rcases again with ⟨ok, -⟩ | ⟨e, error, emptied⟩
    · cases ok
    · cases error
      obtain ⟨_, _, _, _, _, _, _, _, _, _, _, _, _, _, _, is⟩ := emptied
      cases is

end walks

/-- Whatever an engine has been through, and whatever value a walk that may change it goes through
well: if the handlers of the fields at which it has stopped assign texts that are given in full,
to any field or to a zero one, or assign nothing and are steady, then a second walk goes well,
too, and leaves what the first one has left; or it ends with the error that the text of an
annotation for zero fields cannot be assigned to a field that was not zero before the first
walk and is zero after it. -/
theorem defaults_settle (config : Config) (operations : List Operation) (v : Value) :
    let w := ({ engine := .new config } : Workspace).afterAll operations
    let stops := (Engine.tourWith .full true w.engine.config.selfValidate none v w).stops
    let first := (Engine.walk true v).run w
    let second := (Engine.walk true first.1.root).run first.2
    (∀ stop ∈ stops, ∀ info, stop.field = some info → w.engine.Suits info) →
      first.1.outcome = .ok () →
      second.1.outcome = .ok () ∧ second.1.root = first.1.root ∨
        ∃ e, second.1.outcome = .error e ∧ w.engine.Emptied stops v first.1.root e := by
  intro w stops first second suits ok
  have nothing : ∀ registry, ((Engine.new config).registryNamed registry).arguments = .empty := by
    intro registry
    cases registry <;> rfl
  have owns : w.engine.OwnsAll := (secure_afterAll (w := { engine := .new config }) nothing _).owns
  have same : w.engine.Matches w.engine := ⟨owns, rfl, fun _ _ => rfl, fun _ => rfl⟩
  obtain ⟨acts, are⟩ := exists_engine_acts w.engine
  have ran : first = _ := run_walk true v w
  have ran' : second = _ := run_walk true first.1.root first.2
  rw [ran] at ok
  obtain ⟨settled, matched⟩ := settled_tourWith are w.engine.config.selfValidate same suits ok
  rw [ran', ran]
  exact tourWith_settled are _ settled matched

/-- The handler that controls walks assigns nothing and does not look at the field. -/
theorem steady_walkControl : PlainHandler.walkControl.Steady where
  unassigning _ _ := rfl
  verdict _ _ _ _ _ _ _ _ := rfl

/-- The stock handlers suit all annotations that assign texts given in full. -/
theorem suits_new (config : Config) {info : FieldInfo}
    (literal : ∀ pair ∈ annotationPairs info.tag, pair.name = "default" ∨ pair.name = "set" →
      pair.value.toList.head? ≠ some '.') : (Engine.new config).Suits info := by
  intro pair among h handler
  have literal := literal pair among
  have handlers : (Engine.new config).registry.handlers =
      ((Engine.new config).validation.handlers.insert "default" (.plain .defaults)).insert "set"
        (.plain .assignment) := rfl
  rw [handlers, Table.get?_insert, Table.get?_insert] at handler
  split at handler
  · next set =>
    cases handler
    exact .assignment (literal (.inr set.symm))
  · split at handler
    · next default =>
      cases handler
      exact .defaults (literal (.inl default.symm))
    · rcases validates_of_validation config handler with rfl | rfl
      · exact .validate true
      · exact .steady steady_walkControl

/-- Handlers go on suiting until they are replaced. -/
theorem suits_afterAll {operations : List Operation}
    (spared : ∀ operation ∈ operations, ∀ name, ¬ operation.Replaces name) {w : Workspace}
    {info : FieldInfo} (suits : w.engine.Suits info) :
    (w.afterAll operations).engine.Suits info := by
  intro pair among h handler
  rw [handlers_afterAll fun operation mem => spared operation mem pair.name] at handler
  exact suits pair among h handler

/-- A structure with a list and an option, in an engine that has walked it before. -/
theorem defaults_settle_of_list :
    let leaf : RecordType :=
      { name := "Leaf", fields := [{ name := "size", tag := "default:\"3\"" }] }
    let tree : RecordType :=
      { name := "Tree"
        fields := [{ name := "title", tag := "set:\"new\" default:\"none\"" },
          { name := "leaves", tag := "walk:\"true\"" },
          { name := "note", tag := "default:\"x\"" }] }
    let size (n : IntType.uint8.Number) : Value := .integer .uint8 n
    let leaves : List Value :=
      [.record leaf [size ⟨0, by decide⟩], .record leaf [size ⟨5, by decide⟩]]
    let v : Value := .record tree [.text "old", .seq leaves, .absent ⟨.text, []⟩]
    let operations : List Operation := [.addSymbol "limit" (.int 3), .request (.walk false v)]
    let w := ({ engine := .new {} } : Workspace).afterAll operations
    let stops := (Engine.tourWith .full true w.engine.config.selfValidate none v w).stops
    let first := (Engine.walk true v).run w
    let second := (Engine.walk true first.1.root).run first.2
    (∀ stop ∈ stops, ∀ info, stop.field = some info → w.engine.Suits info) ∧
      first.1.outcome = .ok () ∧
      (first.1.root.resolve [.field 0]).bind Value.literal? = some (.str "new") ∧
      (first.1.root.resolve [.field 1, .index 0, .field 0]).bind Value.literal? = some (.uint 3) ∧
      (first.1.root.resolve [.field 2]).bind Value.literal? = some (.str "x") ∧
      second.1.outcome = .ok () ∧ second.1.root = first.1.root := by
  intro leaf tree size leaves v operations w stops first second
  have literal : ∀ stop ∈ stops, ∀ info ∈ stop.field, ∀ pair ∈ annotationPairs info.tag,
      pair.value.toList.head? ≠ some '.' := by
    decide +kernel
  have suits : ∀ stop ∈ stops, ∀ info, stop.field = some info → w.engine.Suits info := by
    intro stop mem info field
    refine suits_afterAll ?_
      (suits_new {} fun pair among _ => literal stop mem info field pair among)
    simp [operations, Operation.Replaces, Request.Replaces]
  have ok : first.1.outcome = .ok () := by decide +kernel
  have again : second.1.outcome = .ok () := by decide +kernel
  refine ⟨suits, ok, by decide +kernel, by decide +kernel, by decide +kernel, ?_⟩
  rcases defaults_settle {} operations v suits ok with well | ⟨e, error, -⟩
  · exact well
  · cases again.symm.trans error

/-- A second walk can fail.  The annotation for zero fields spares a field that a later one makes
zero; then its own text cannot be assigned to the field.  And a handler that assigns nothing can
stop the walk for what another one has assigned. -/
theorem defaults_unsettled :
    let emptied : RecordType :=
      { name := "Page", fields := [{ name := "count", tag := "default:\"many\" set:\"0\"" }] }
    let watched : RecordType :=
      { name := "Page", fields := [{ name := "count", tag := "watch:\"\" set:\"0\"" }] }
    let watch : PlainHandler :=
      { sort := .text
        parse := .ok
        run := fun _ f =>
          { verdict :=
              if f.value.any Value.isZero then .error (.custom "zero") else .ok .descend } }
    let count : Value := .integer .int32 ⟨7, by decide⟩
    let stock : Workspace := { engine := .new {} }
    let watching := stock.afterAll [.request (.register "watch" (.plain watch))]
    let first := (Engine.walk true (.record emptied [count])).run stock
    let second := (Engine.walk true first.1.root).run first.2
    let first' := (Engine.walk true (.record watched [count])).run watching
    let second' := (Engine.walk true first'.1.root).run first'.2
    (∀ info ∈ emptied.fields, stock.engine.Suits info) ∧
      first.1.outcome = .ok () ∧
      second.1.outcome = .error (.assignment "count" (.mismatch (.str "many") "i32")) ∧
      (∀ payload f, (watch.run payload f).assign = none) ∧
      first'.1.outcome = .ok () ∧ second'.1.outcome = .error (.custom "zero") := by
  intro emptied watched watch count stock watching first second first' second'
  have literal : ∀ info ∈ emptied.fields, ∀ pair ∈ annotationPairs info.tag,
      pair.value.toList.head? ≠ some '.' := by
    decide +kernel
  refine ⟨fun info mem => suits_new {} fun pair among _ => literal info mem pair among,
    by decide +kernel, by decide +kernel, fun _ _ => rfl, by decide +kernel, by decide +kernel⟩

end RecordRules

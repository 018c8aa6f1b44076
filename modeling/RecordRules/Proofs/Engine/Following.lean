import RecordRules.Proofs.Engine.Inspecting
import RecordRules.Proofs.Engine.Keeping

/-!
# Walks beside inspections

A walk of validation remembers what it has read and counts what it records; an inspection
does neither.  Side by side with an inspection, a walk over a root ends with the result of
the report, has recorded the failures of the report in order, and has counted them.  Its
engine stays faithful, and the checks that it made are those of the inspection.

Steps and handlers come first: what is done at one path of the root.
-/

namespace RecordRules

/-- Effects that enter checks in a journal, newest entries first. -/
abbrev Journal := StateM (List Visit)

/-- Checks are entered in the journal; an error in a nested structure is a failure of it. -/
def journal : Reading.Effects Journal where
  check c root v := do
    modify (⟨c, root, v⟩ :: ·)
    return c.test root v
  interrupted e := return .error { code := e.code, message := e.message }

/-! ## Sides -/

/-- Work with a faithful engine, and the same with a journal alone. -/
def working (s : Setup) : MonadRelation Work Journal where
  Rel x y := ∀ w, s.Faithful w.engine → ∃ a w', x.run w = (a, w') ∧
    y.run w.visits = (a, w'.visits) ∧ s.Faithful w'.engine
  pure a w faithful := ⟨a, w, rfl, rfl, faithful⟩
  bind {α β x y f g} first second w faithful := by
    obtain ⟨a, w₁, runs, journals, kept⟩ := first w faithful
    obtain ⟨b, w₂, runs', journals', kept'⟩ := second a w₁ kept
    refine ⟨b, w₂, ?_, ?_, kept'⟩
    · rw [StateT.run_bind, runs]
      exact runs'
    · rw [StateT.run_bind, journals]
      exact journals'

/-- The state of a walk after a report. -/
def WalkState.after (state : WalkState) (work : Workspace) (recorded : List (String × Failure)) :
    WalkState where
  work := work
  root := state.root
  failures := recorded.foldl (fun fs entry => fs.record entry.1 entry.2) state.failures
  recorded := state.recorded + recorded.length

theorem after_append (state : WalkState) (work work' : Workspace)
    (recorded recorded' : List (String × Failure)) :
    (state.after work recorded).after work' recorded' =
      state.after work' (recorded ++ recorded') := by
  simp only [WalkState.after, List.foldl_append, List.length_append, Nat.add_assoc]

theorem journal_append {α : Type} {y : Inspect Journal α} {visits visits' : List Visit}
    {report : Report α} (recorded : List (String × Failure))
    (journals : y.run.run visits = (report, visits')) :
    (do
      let second ← y.run
      return ⟨recorded ++ second.recorded, second.result⟩ : Journal (Report α)).run visits =
      (⟨recorded ++ report.recorded, report.result⟩, visits') := by
  rw [StateT.run_bind, journals]
  rfl

/-- Walks over a root with a faithful engine, and inspections with a journal. -/
def walking (s : Setup) (root : Value) : MonadRelation Walk (Inspect Journal) where
  Rel x y := ∀ state, state.root = root → s.Faithful state.work.engine →
    ∃ report work, y.run.run state.work.visits = (report, work.visits) ∧
      x.run.run state = (report.result, state.after work report.recorded) ∧ s.Faithful work.engine
  pure a state _ faithful := ⟨⟨[], .ok a⟩, state.work, rfl, rfl, faithful⟩
  bind {α β x y f g} first second state is faithful := by
    obtain ⟨report, work, journals, runs, kept⟩ := first state is faithful
    obtain ⟨recorded, result⟩ := report
    rw [run_bind, runs]
    cases result with
    | error e =>
      refine ⟨⟨recorded, .error e⟩, work, ?_, rfl, kept⟩
      rw [Inspect.run_bind, StateT.run_bind, journals]
      rfl
    | ok a =>
      obtain ⟨report', work', journals', runs', kept'⟩ :=
        second a (state.after work recorded) is kept
      refine ⟨⟨recorded ++ report'.recorded, report'.result⟩, work', ?_, ?_, kept'⟩
      · rw [Inspect.run_bind, StateT.run_bind, journals]
        exact journal_append recorded journals'
      · rw [after_append] at runs'
        exact runs'

/-! ## Single steps -/

section steps

variable {s : Setup} {root : Value}

theorem walking_throw {α : Type} (e : Fatal) :
    (walking s root).Rel (throw e : Walk α) (Inspect.fail e) :=
  fun state _ faithful => ⟨⟨[], .error e⟩, state.work, rfl, rfl, faithful⟩

theorem walking_record (path : String) (e : Failure) :
    (walking s root).Rel (Walk.record path e) (Inspect.note path e) :=
  fun state _ faithful => ⟨⟨[(path, e)], .ok ()⟩, state.work, rfl, rfl, faithful⟩

theorem walking_work {α : Type} {x : Work α} {y : Journal α} (related : (working s).Rel x y) :
    (walking s root).Rel (Walk.work x) (Inspect.perform y) := by
  intro state _ faithful
  obtain ⟨a, w, runs, journals, kept⟩ := related state.work faithful
  refine ⟨⟨[], .ok a⟩, w, ?_, ?_, kept⟩
  · change (y >>= _ : Journal _).run state.work.visits = _
    rw [StateT.run_bind, journals]
    rfl
  · rw [run_work, runs]
    rfl

theorem walking_resolve (path : FieldPath) :
    (walking s root).Rel (Walk.resolve path) (pure (root.resolve path.steps)) := by
  rintro state rfl faithful
  exact ⟨⟨[], .ok _⟩, state.work, rfl, rfl, faithful⟩

theorem walking_config : (walking s root).Rel Walk.config (pure s.config) := by
  intro state _ faithful
  refine ⟨⟨[], .ok s.config⟩, state.work, rfl, ?_, faithful⟩
  rw [← faithful.config]
  rfl

/-- A walk that looks at the state goes on as it does for the state that it finds. -/
theorem walking_get {α : Type} {f : WalkState → Walk α} {y : Inspect Journal α}
    (each : ∀ state, state.root = root → s.Faithful state.work.engine →
      (walking s root).Rel (f state) y) : (walking s root).Rel (get >>= f) y := by
  intro state is faithful
  rw [run_get]
  exact each state is faithful state is faithful

/-- A step with a known result that reports nothing. -/
theorem walking_then {α β : Type} {x : Walk α} {a : α} {f : α → Walk β} {y : Inspect Journal β}
    (first : (walking s root).Rel x (pure a)) (second : (walking s root).Rel (f a) y) :
    (walking s root).Rel (x >>= f) y := by
  intro state is faithful
  obtain ⟨report, work, journals, runs, kept⟩ := first state is faithful
  obtain ⟨rfl, visits⟩ : ⟨[], .ok a⟩ = report ∧ state.work.visits = work.visits :=
    Prod.mk.inj journals
  obtain ⟨report', work', journals', runs', kept'⟩ := second (state.after work []) is kept
  refine ⟨report', work', ?_, ?_, kept'⟩
  · rw [visits]
    exact journals'
  · rw [run_bind, runs]
    rw [after_append] at runs'
    exact runs'

/-- A step that is known to end the walk. -/
theorem walking_ends {α β : Type} {x : Walk α} {e : Fatal} {f : α → Walk β}
    (first : (walking s root).Rel x (Inspect.fail e)) :
    (walking s root).Rel (x >>= f) (Inspect.fail e) := by
  intro state is faithful
  obtain ⟨report, work, journals, runs, kept⟩ := first state is faithful
  obtain ⟨rfl, visits⟩ : ⟨[], .error e⟩ = report ∧ state.work.visits = work.visits :=
    Prod.mk.inj journals
  refine ⟨⟨[], .error e⟩, work, ?_, ?_, kept⟩
  · rw [visits]
    rfl
  · rw [run_bind, runs]

end steps

/-! ## Handlers -/

/-- Every field of every structure in a value is shown under a name. -/
def Value.Named (config : Config) (v : Value) : Prop :=
  v.EveryType fun type => ∀ info ∈ type.fields, Walk.segment config info ≠ ""

/-- What stands before the first comma is shown only if it is not empty. -/
theorem segment_ne_empty (config : Config) {info : FieldInfo} (named : info.name ≠ "") :
    Walk.segment config info ≠ "" := by
  rw [Walk.segment]
  cases shown : (config.nameTag.bind info.lookup).bind displayName with
  | none => exact named
  | some segment =>
    obtain ⟨value, -, shown⟩ := Option.bind_eq_some_iff.mp shown
    rw [displayName] at shown
    split at shown
    · cases shown
    · next useful =>
      cases shown
      exact fun empty => useful (.inl empty)

/-- Fields with names are shown under names. -/
theorem named_of_names (config : Config) {v : Value}
    (names : v.EveryType fun type => ∀ info ∈ type.fields, info.name ≠ "") : v.Named config :=
  Value.everyType_mono (fun _ named info mem => segment_ne_empty config (named info mem)) names

/-- A walk of validation has the same nested structures validated as an inspection, up to
a depth. -/
structure Simulates (s : Setup) (bound : Nat) (setting : WalkSetting)
    (r : Validator.Runner Journal) : Prop where
  registry : setting.registry = .validation
  selfValidate : setting.selfValidate = s.config.selfValidate
  check : ∀ c root v, (working s).Rel (Work.check c root v) (r.check c root v)
  nested : ∀ outer v, v.Named s.config → v.weight ≤ bound →
    (working s).Rel (setting.nested outer v) (r.nested outer v)

section handlers

variable {s : Setup} {root : Value} {bound : Nat} {setting : WalkSetting}
  {r : Validator.Runner Journal}

theorem working_run (simulates : Simulates s bound setting r) (w : Validator) (outer : Option Value)
    {v : Value} (named : v.Named s.config) (within : v.weight ≤ bound) :
    (working s).Rel (w.run ⟨Work.check, setting.nested⟩ outer v) (w.run r outer v) := by
  have inherit : ∀ v : Value, v.Named s.config ∧ v.weight ≤ bound →
      ∀ u ∈ v.parts, u.Named s.config ∧ u.weight ≤ bound := by
    rintro v ⟨named, within⟩ u mem
    have names := Value.everyType_parts named u mem
    have light := Value.weight_parts u mem
    exact ⟨names, by omega⟩
  have parts := Value.partsRelated_of_closed inherit
  refine Validator.run_related (working s) parts ?_ w ?_ ⟨rfl, named, within⟩
  · rintro u _ ⟨rfl, named, within⟩
    exact simulates.nested outer u named within
  · rintro c - u _ ⟨rfl, -⟩
    exact simulates.check c outer u

/-- The value at a path is one that the simulation extends to. -/
def Fits (config : Config) (bound : Nat) (value : Option Value) : Prop :=
  ∀ v, value = some v → v.Named config ∧ v.depth ≤ bound

theorem walking_validateField (simulates : Simulates s bound setting r) (path : FieldPath)
    (w : Validator) (fits : Fits s.config bound (root.resolve path.steps)) :
    (walking s root).Rel (Walk.validateField setting path w)
      (Reading.verify r (setting.outer.getD root) path.name w (root.resolve path.steps)) := by
  apply walking_then (walking_resolve path)
  cases value : root.resolve path.steps with
  | none => exact walking_throw _
  | some v =>
    obtain ⟨named, within⟩ := fits v value
    refine walking_get fun state is _ => ?_
    rw [is]
    have light : v.weight ≤ bound := by
      have weight := Value.weight_le_depth v
      omega
    have run := working_run simulates w (some (setting.outer.getD root)) named light
    refine (walking s root).bind (walking_work run) fun outcome => ?_
    cases outcome with
    | ok _ =>
      exact (walking s root).bind ((walking s root).pure ()) fun _ => (walking s root).pure _
    | error e =>
      exact (walking s root).bind (walking_record path.name e) fun _ => (walking s root).pure _

theorem walking_argumentOf (simulates : Simulates s bound setting r) {h : Handler} {pair : Pair}
    (unquoted : unquote pair.quoted = .ok pair.value)
    (handler : s.engine.validation.handlers.get? pair.name = some h) :
    (walking s root).Rel (Walk.argumentOf setting h pair)
      (match s.reading.argument pair.value h with
        | .ok argument => pure argument
        | .error e => .fail (.malformed pair.name pair.value e)) := by
  intro state _ faithful
  obtain ⟨work, runs, kept, visits⟩ :=
    run_argumentOf setting simulates.registry unquoted handler state faithful
  rw [runs]
  cases s.reading.argument pair.value h with
  | ok argument =>
    refine ⟨⟨[], .ok argument⟩, work, ?_, rfl, kept⟩
    rw [visits]
    rfl
  | error e =>
    refine ⟨⟨[], .error (.malformed pair.name pair.value e)⟩, work, ?_, rfl, kept⟩
    rw [visits]
    rfl

theorem walking_followPair (simulates : Simulates s bound setting r) (path : FieldPath)
    (info : FieldInfo) (fits : Fits s.config bound (root.resolve path.steps)) {h : Handler}
    {pair : Pair}
    (unquoted : unquote pair.quoted = .ok pair.value)
    (handler : s.engine.validation.handlers.get? pair.name = some h) :
    (walking s root).Rel
      (Walk.argumentOf setting h pair >>= fun argument =>
        Walk.runHandler setting path info h argument)
      (s.reading.followPair r (setting.outer.getD root) path.name (root.resolve path.steps)
        pair) := by
  have read : (walking s root).Rel _ _ := walking_argumentOf simulates unquoted handler
  rw [validation_handler] at handler
  unfold Reading.followPair
  rw [show s.reading.config = s.config from rfl]
  by_cases walk : pair.name = s.config.walkTag
  · rw [if_pos walk] at handler ⊢
    cases handler
    rw [Reading.argument, show PlainHandler.walkControl.parse = PlainHandler.parseVerdict from rfl]
      at read
    cases parsed : PlainHandler.parseVerdict pair.value with
    | ok verdict =>
      rw [parsed] at read
      refine walking_then read fun state _ faithful => ?_
      exact ⟨⟨[], .ok verdict⟩, state.work, rfl, rfl, faithful⟩
    | error e =>
      rw [parsed] at read
      exact walking_ends read
  · rw [if_neg walk] at handler ⊢
    by_cases validate : pair.name = s.config.validateTag
    · rw [if_pos validate] at handler ⊢
      cases handler
      rw [Reading.argument] at read
      cases meaning : s.reading.meaning pair.value with
      | ok w =>
        rw [meaning] at read
        exact walking_then read (walking_validateField simulates path w fits)
      | error e =>
        rw [meaning] at read
        exact walking_ends read
    · rw [if_neg validate] at handler
      cases handler

/-- The handlers of the entries of an annotation do what following the entries does. -/
theorem walking_dispatch (simulates : Simulates s bound setting r) (path : FieldPath)
    (info : FieldInfo) (fits : Fits s.config bound (root.resolve path.steps)) {pairs : List Pair}
    (unquoted : ∀ pair ∈ pairs, unquote pair.quoted = .ok pair.value) :
    (walking s root).Rel (Walk.dispatch setting path info pairs)
      (s.reading.follow r (setting.outer.getD root) path.name (root.resolve path.steps) pairs) := by
  induction pairs with
  | nil => exact (walking s root).pure _
  | cons pair pairs ih =>
    have others := ih fun pair mem => unquoted pair (List.mem_cons_of_mem _ mem)
    have rest : ∀ verdict : Verdict, (walking s root).Rel
        (do return verdict.and (← Walk.dispatch setting path info pairs))
        (do return verdict.and (← s.reading.follow r (setting.outer.getD root) path.name
          (root.resolve path.steps) pairs)) := by
      intro verdict
      exact (walking s root).bind others fun _ => (walking s root).pure _
    rw [Walk.dispatch, Reading.follow]
    refine walking_get fun state _ faithful => ?_
    rw [simulates.registry, Engine.registryNamed, faithful.handlers]
    cases handler : s.engine.validation.handlers.get? pair.name with
    | none =>
      refine (walking s root).bind ?_ rest
      rw [validation_handler] at handler
      unfold Reading.followPair
      rw [show s.reading.config = s.config from rfl]
      split at handler
      · cases handler
      · next walk =>
        split at handler
        · cases handler
        · next validate =>
          rw [if_neg walk, if_neg validate]
          exact (walking s root).pure _
    | some h =>
      have unquotes := unquoted pair List.mem_cons_self
      have first := walking_followPair simulates path info fits unquotes handler
      have both := (walking s root).bind first rest
      rw [bind_assoc] at both
      exact both

end handlers

end RecordRules

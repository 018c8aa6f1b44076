import RecordRules.Proofs.Check.Placing
import RecordRules.Proofs.Engine.Refinement
import RecordRules.Proofs.Engine.Touring

/-!
# Surveys

Two of those who take part in validation go into nested structures: the walk, and the
validators that it runs for fields, which start walks of their own.  A survey is the validation
of a structure that writes down what all of them do, and where: each field whose annotations
are dispatched, and each structure whose own check is run.  Places are counted from the value
that is validated, so those who get to a field in different ways write down the same place.

Without what is written down, a survey is the validation (`run_validateStruct`).
-/

namespace RecordRules

/-- Something that is done at a place. -/
inductive Deed where
  /-- The handlers of the field at the place are run. -/
  | dispatch (place : Place)
  /-- The own check of the structure at the place is run. -/
  | selfCheck (place : Place)
deriving DecidableEq

/-- Where it is done. -/
def Deed.place : Deed → Place
  | dispatch place => place
  | selfCheck place => place

/-- What comes of logged work: its result, the state afterwards, and its deeds in order. -/
structure Done (σ α : Type) where
  result : α
  state : σ
  deeds : List Deed

/-- Work on a state that writes down its deeds. -/
def Logged (σ α : Type) : Type :=
  σ → Done σ α

namespace Logged

variable {σ α : Type}

instance : Monad (Logged σ) where
  pure a := fun state => ⟨a, state, []⟩
  bind x f := fun state =>
    let first := x state
    let second := f first.result first.state
    ⟨second.result, second.state, first.deeds ++ second.deeds⟩

instance : LawfulMonad (Logged σ) :=
  LawfulMonad.mk' (Logged σ)
    (fun x => funext fun state => congrArg (Done.mk _ _) (List.append_nil (x state).deeds))
    (fun _ _ => rfl)
    (fun _ _ _ => funext fun _ => congrArg (Done.mk _ _) (List.append_assoc _ _ _))

/-- Work with nothing written down. -/
def lift (x : StateM σ α) : Logged σ α := fun state =>
  ⟨(x.run state).1, (x.run state).2, []⟩

/-- Writes down a deed. -/
def log (deed : Deed) : Logged σ Unit := fun state =>
  ⟨(), state, [deed]⟩

end Logged

/-- A walk that writes down its deeds; it may end early. -/
abbrev Survey := ExceptT Fatal (Logged WalkState)

/-- What stays the same during a survey. -/
structure SurveySetting where
  walk : WalkSetting
  /-- The place of the value that is walked. -/
  base : Place
  /-- The validation of a nested structure at a place. -/
  nested : Place → Option Value → Value → Logged Workspace Outcome

/-- The setting of a survey of validation. -/
def validationSurvey (selfValidate : Bool) (outer : Option Value) (levels : Nat) (base : Place)
    (nested : Place → Option Value → Value → Logged Workspace Outcome) : SurveySetting where
  walk := validationSetting selfValidate outer levels
  base := base
  nested := nested

/-- The place that a path leads to from a place. -/
def FieldPath.placeFrom (base : Place) (path : FieldPath) : Place :=
  path.newestFirst.map .step ++ base

namespace Survey

variable {α : Type}

/-- A walk with nothing written down. -/
def lift (x : Walk α) : Survey α :=
  .mk (.lift x.run)

/-- Writes down a deed. -/
def log (deed : Deed) : Survey Unit :=
  ExceptT.lift (.log deed)

/-- Does logged work with the engine. -/
def work (x : Logged Workspace α) : Survey α := .mk fun state =>
  let done := x state.work
  ⟨.ok done.result, { state with work := done.state }, done.deeds⟩

variable (s : SurveySetting)

/-- What running a validator at a place does. -/
def runner (place : Place) : Validator.Runner (Logged Workspace) where
  check c root v := .lift (Work.check c root v)
  nested := s.nested place

/-- Checks the field at a path. -/
def validateField (path : FieldPath) (v : Validator) : Survey Verdict := do
  match ← lift (Walk.resolve path) with
  | none => throw (.unresolved path.name)
  | some value =>
    let root := s.walk.outer.getD (← lift get).root
    match ← work (v.runAt (runner s) (some root) (path.placeFrom s.base) value) with
    | .ok () => pure ()
    | .error e => lift (Walk.record path.name e)
    return if v.descends then .skip else .descend

/-- Runs a handler for the field at a path. -/
def runHandler (path : FieldPath) (info : FieldInfo) (h : Handler) (argument : Prepared) :
    Survey Verdict :=
  match h with
  | .validate _ =>
    match argument.as? .rule with
    | some v => validateField s path v
    | none => lift (Walk.mismatch info)
  | .plain h => lift (Walk.runHandler s.walk path info (.plain h) argument)

/-- Runs the handler of an annotation, if there is one, for the field at a path. -/
def handle (path : FieldPath) (info : FieldInfo) (pair : Pair) : Survey Verdict := do
  match ((← lift get).work.engine.registryNamed s.walk.registry).handlers.get? pair.name with
  | none => pure .descend
  | some h => do runHandler s path info h (← lift (Walk.argumentOf s.walk h pair))

/-- Runs the handlers of annotations, in order, for the field at a path. -/
def dispatch (path : FieldPath) (info : FieldInfo) : List Pair → Survey Verdict
  | [] => return .descend
  | pair :: pairs => do
    let verdict ← handle s path info pair
    return verdict.and (← dispatch path info pairs)

/-- Runs the own check of the structure at a path, if this is asked for, the structure is
below the root, and nothing has been recorded since. -/
def selfValidate (path : FieldPath) (before : Nat) : Survey Unit := do
  if s.walk.selfValidate && !path.name.isEmpty && (← lift get).recorded = before then
    match ← lift (Walk.resolve path) with
    | some v =>
      log (.selfCheck (path.placeFrom s.base))
      match v.selfCheck with
      | .ok () => pure ()
      | .error e => lift (Walk.record path.name e)
    | none => pure ()

/-- What a survey does on its way. -/
def conduct : Conduct Survey where
  look path := lift (Walk.resolve path)
  config := lift Walk.config
  attend path info := do
    log (.dispatch (path.placeFrom s.base))
    dispatch s path info (annotationPairs info.tag)
  enclose path x := do
    let before ← lift Walk.count
    x
    selfValidate s path before

/-- Walks a value. -/
def walkValue (v : Value) : Logged Workspace WalkResult := fun w =>
  let done := ((conduct s).descend v.depth .root).run { work := w, root := v }
  ⟨⟨done.result, done.state.root, done.state.failures⟩, done.state.work, done.deeds⟩

/-- Says what came of a structure at a place whose fields were walked; the structure has a say
if nothing is wrong with them. -/
def judge (place : Place) (result : WalkResult) (v : Value) : Logged Workspace Outcome :=
  match result.outcome with
  | .error e => return .error { code := e.code, message := e.message }
  | .ok () => do
    if result.failures.size = 0 then
      .log (.selfCheck place)
      return v.selfCheck
    else return .error (.nested result.failures)

/-- Validates a nested structure that is behind the value at a place. -/
def validateNestedWithin (levels : Nat) (place : Place) (root : Option Value) (v : Value) :
    Logged Workspace Outcome :=
  match v.indirect with
  | .record type fields =>
    match levels with
    | 0 => return .ok ()
    | levels + 1 => do
      let selfValidate := (← Logged.lift get).engine.config.selfValidate
      let s := validationSurvey selfValidate root levels (v.behind place)
        (validateNestedWithin levels)
      let result ← walkValue s (.record type fields)
      judge (v.behind place) result (.record type fields)
  | other => return other.noStructure

section nested

variable {v : Value} {type : RecordType} {values : List Value}

theorem validateNestedWithin_other (other : ∀ type values, v.indirect ≠ .record type values)
    (levels : Nat) (place : Place) (root : Option Value) :
    validateNestedWithin levels place root v = pure v.indirect.noStructure := by
  unfold validateNestedWithin
  split
  · next leads => exact absurd leads (other _ _)
  · rfl

theorem validateNestedWithin_zero (leads : v.indirect = .record type values) (place : Place)
    (root : Option Value) : validateNestedWithin 0 place root v = pure (.ok ()) := by
  unfold validateNestedWithin
  rw [leads]

theorem validateNestedWithin_record (leads : v.indirect = .record type values) (levels : Nat)
    (place : Place) (root : Option Value) :
    validateNestedWithin (levels + 1) place root v = (do
      let selfValidate := (← Logged.lift get).engine.config.selfValidate
      let s := validationSurvey selfValidate root levels (v.behind place)
        (validateNestedWithin levels)
      let result ← walkValue s (.record type values)
      judge (v.behind place) result (.record type values)) := by
  rw [validateNestedWithin, leads]

end nested

end Survey

/-- Validates the annotated fields of a structure, and writes down what is done where. -/
def Engine.survey (v : Value) : Logged Workspace (Except Refusal Unit) := do
  let selfValidate := (← Logged.lift get).engine.config.selfValidate
  let s := validationSurvey selfValidate none v.depth [] (Survey.validateNestedWithin v.depth)
  let result ← Survey.walkValue s v
  match result.outcome with
  | .error e => return .error (.fatal e)
  | .ok () =>
    if result.failures.size = 0 then return .ok () else return .error (.fields result.failures)

/-! ## Without the log -/

/-- Work, and the same with a log. -/
def unlogging (σ : Type) : MonadRelation (StateM σ) (Logged σ) where
  Rel x y := ∀ state, x.run state = ((y state).result, (y state).state)
  pure _ _ := rfl
  bind {α β x y f g} first second state := by
    rw [StateT.run_bind, first]
    exact second (y state).result (y state).state

/-- A walk, and the same with a log. -/
def unsurveying : MonadRelation Walk Survey where
  Rel x y := (unlogging WalkState).Rel x.run y.run
  pure _ := (unlogging WalkState).pure _
  bind {α β x y f g} first second := by
    rw [ExceptT.run_bind, ExceptT.run_bind]
    refine (unlogging WalkState).bind first fun result => ?_
    cases result with
    | ok a => exact second a
    | error e => exact (unlogging WalkState).pure _

section unsurveying

variable {α : Type} {s : SurveySetting}

theorem unlogging_lift {σ : Type} (x : StateM σ α) : (unlogging σ).Rel x (.lift x) :=
  fun _ => rfl

theorem unlogging_log {σ : Type} (deed : Deed) {x : StateM σ α} {y : Logged σ α}
    (rest : (unlogging σ).Rel x y) : (unlogging σ).Rel x (do .log deed; y) :=
  rest

theorem unsurveying_lift (x : Walk α) : unsurveying.Rel x (Survey.lift x) :=
  unlogging_lift x.run

theorem unsurveying_log (deed : Deed) {x : Walk α} {y : Survey α} (rest : unsurveying.Rel x y) :
    unsurveying.Rel x (do Survey.log deed; y) :=
  rest

theorem unsurveying_work {x : Work α} {y : Logged Workspace α}
    (related : (unlogging Workspace).Rel x y) :
    unsurveying.Rel (Walk.work x) (Survey.work y) := by
  intro state
  have same := related state.work
  rw [show (Walk.work x).run.run state = _ from run_work x state, same]
  rfl

theorem unsurveying_get {f : WalkState → Walk α} {g : WalkState → Survey α}
    (each : ∀ state, unsurveying.Rel (f state) (g state)) :
    unsurveying.Rel (get >>= f) (Survey.lift get >>= g) :=
  unsurveying.bind (unsurveying_lift get) each

/-- The nested structures of a survey are validated with a log. -/
def SurveySetting.Nests (s : SurveySetting) : Prop :=
  ∀ place root v, (unlogging Workspace).Rel (s.walk.nested root v) (s.nested place root v)

theorem unsurveying_validateField (nests : s.Nests) (path : FieldPath) (w : Validator) :
    unsurveying.Rel (Walk.validateField s.walk path w) (Survey.validateField s path w) := by
  refine unsurveying.bind (unsurveying_lift _) fun value => ?_
  cases value with
  | none => exact fun _ => rfl
  | some value =>
    refine unsurveying_get fun state => ?_
    have alike : Validator.RunsAlike (unlogging Workspace) ⟨Work.check, s.walk.nested⟩
        (Survey.runner s) (some (s.walk.outer.getD state.root)) :=
      ⟨fun _ _ _ => unlogging_lift _, fun place v => nests place _ v⟩
    have runs := unsurveying_work (w.runAt_related alike (path.placeFrom s.base) value)
    refine unsurveying.bind runs fun outcome => ?_
    cases outcome with
    | ok _ => exact unsurveying.pure _
    | error e => exact unsurveying.bind (unsurveying_lift _) fun _ => unsurveying.pure _

theorem unsurveying_dispatch (nests : s.Nests) (path : FieldPath) (info : FieldInfo)
    (pairs : List Pair) :
    unsurveying.Rel (Walk.dispatchBy Walk.runHandler s.walk path info pairs)
      (Survey.dispatch s path info pairs) := by
  induction pairs with
  | nil => exact unsurveying.pure _
  | cons pair pairs ih =>
    refine unsurveying.bind (unsurveying_get fun state => ?_) fun verdict =>
      unsurveying.bind ih fun _ => unsurveying.pure _
    cases (state.work.engine.registryNamed s.walk.registry).handlers.get? pair.name with
    | none => exact unsurveying.pure _
    | some h =>
      refine unsurveying.bind (unsurveying_lift _) fun argument => ?_
      cases h with
      | validate shared =>
        rw [Walk.runHandler, Survey.runHandler]
        cases argument.as? .rule with
        | none => exact unsurveying_lift _
        | some w => exact unsurveying_validateField nests path w
      | plain h => exact unsurveying_lift _

theorem unsurveying_selfValidate (path : FieldPath) (before : Nat) :
    unsurveying.Rel (Walk.selfValidate s.walk path before)
      (Survey.selfValidate s path before) := by
  refine unsurveying_get fun state => ?_
  split
  · refine unsurveying.bind (unsurveying_lift _) fun value => ?_
    cases value with
    | none => exact unsurveying.pure _
    | some v =>
      refine unsurveying_log _ ?_
      dsimp only
      cases v.selfCheck with
      | ok _ => exact unsurveying.pure _
      | error e => exact unsurveying_lift _
  · exact unsurveying.pure _

theorem related_survey (nests : s.Nests) :
    Conduct.Related unsurveying (fun _ => True) (Walk.conduct Walk.runHandler s.walk)
      (Survey.conduct s) where
  look path _ _ next :=
    unsurveying.bind (unsurveying_lift (Walk.resolve path)) fun value =>
      next value fun _ _ _ => trivial
  config := unsurveying_lift _
  attend path _ info _ _ := unsurveying_log _ (unsurveying_dispatch nests path info _)
  enclose path _ _ fields :=
    unsurveying.bind (unsurveying_lift Walk.count) fun before =>
      unsurveying.bind fields fun _ => unsurveying_selfValidate path before

theorem unlogging_walkValue (nests : s.Nests) (v : Value) :
    (unlogging Workspace).Rel (walkValue s.walk v) (Survey.walkValue s v) := by
  intro w
  have walks := (related_survey nests).descend v.depth .root { work := w, root := v }
  rw [Walk.descend_conduct, Walk.descendBy_runHandler] at walks
  have ends : (walkValue s.walk v).run w =
      let after := (Walk.descend s.walk v.depth .root).run.run { work := w, root := v }
      (⟨after.1, after.2.root, after.2.failures⟩, after.2.work) := rfl
  rw [ends, walks]
  rfl

theorem unlogging_judge (place : Place) (result : WalkResult) (v : Value) :
    (unlogging Workspace).Rel (pure (result.judge v)) (Survey.judge place result v) := by
  rw [WalkResult.judge, Survey.judge]
  cases result.outcome with
  | error e => exact (unlogging Workspace).pure _
  | ok _ =>
    dsimp only
    split
    · exact unlogging_log _ ((unlogging Workspace).pure _)
    · exact (unlogging Workspace).pure _

theorem unlogging_validateNestedWithin (levels : Nat) (place : Place) (root : Option Value)
    (v : Value) :
    (unlogging Workspace).Rel (validateNestedWithin levels root v)
      (Survey.validateNestedWithin levels place root v) := by
  induction levels generalizing place root v with
  | zero =>
    rcases v.record_or_other with ⟨type, values, leads⟩ | other
    · rw [Survey.validateNestedWithin_zero leads]
      unfold validateNestedWithin
      rw [leads]
      exact (unlogging Workspace).pure _
    · rw [validateNestedWithin_other other, Survey.validateNestedWithin_other other]
      exact (unlogging Workspace).pure _
  | succ levels ih =>
    rcases v.record_or_other with ⟨type, values, leads⟩ | other
    · rw [validateNestedWithin_record leads, Survey.validateNestedWithin_record leads]
      refine (unlogging Workspace).bind (unlogging_lift _) fun w => ?_
      have nests : (validationSurvey w.engine.config.selfValidate root levels (v.behind place)
        (Survey.validateNestedWithin levels)).Nests := ih
      refine (unlogging Workspace).bind (unlogging_walkValue nests _) fun result => ?_
      exact unlogging_judge _ result _
    · rw [validateNestedWithin_other other, Survey.validateNestedWithin_other other]
      exact (unlogging Workspace).pure _

/-- Without what it writes down, a survey is the validation. -/
theorem run_validateStruct (v : Value) (w : Workspace) :
    (Engine.validateStruct v).run w =
      ((Engine.survey v w).result, (Engine.survey v w).state) := by
  have related : (unlogging Workspace).Rel (Engine.validateStruct v) (Engine.survey v) := by
    refine (unlogging Workspace).bind (unlogging_lift _) fun w => ?_
    have nests : (validationSurvey w.engine.config.selfValidate none v.depth []
      (Survey.validateNestedWithin v.depth)).Nests := unlogging_validateNestedWithin v.depth
    refine (unlogging Workspace).bind (unlogging_walkValue nests v) fun result => ?_
    cases result.outcome with
    | error e => exact (unlogging Workspace).pure _
    | ok _ =>
      dsimp only
      split <;> exact (unlogging Workspace).pure _
  exact related w

end unsurveying

end RecordRules

import RecordRules.Engine.Validate
import RecordRules.Proofs.Annotation
import RecordRules.Proofs.Engine.Conduct
import RecordRules.Proofs.Value.Parts

/-!
# One walk in two workspaces

What work answers must not depend on what the engine happens to remember.  To say so, one
walk is run in two workspaces, which stand in a relation of one's choice, and its handlers
are run in two ways.  The runs end in the same way, with the same root and the same
failures, and in workspaces that are again related, as soon as this is so for the single
annotation (`Dispatches`) and journals do not matter to the relation (`Unjournaled`).

A relation that holds between a workspace and itself makes this an invariant of work.
-/

namespace RecordRules

variable {α β : Type}

/-! ## Runs of walks -/

theorem run_bind (x : Walk α) (f : α → Walk β) (state : WalkState) :
    (x >>= f).run.run state =
      match x.run.run state with
      | (.ok a, state) => (f a).run.run state
      | (.error e, state) => (.error e, state) := by
  rw [ExceptT.run_bind, StateT.run_bind]
  generalize x.run.run state = after
  obtain ⟨result, after⟩ := after
  cases result <;> rfl

theorem run_tryCatch (x : Walk α) (f : Fatal → Walk α) (state : WalkState) :
    (tryCatch x f).run.run state =
      match x.run.run state with
      | (.ok a, state) => (.ok a, state)
      | (.error e, state) => (f e).run.run state := by
  change (ExceptT.tryCatch x f).run.run state = _
  rw [ExceptT.tryCatch]
  change (x.run >>= _).run state = _
  rw [StateT.run_bind]
  generalize x.run.run state = after
  obtain ⟨result, after⟩ := after
  cases result <;> rfl

theorem run_get (f : WalkState → Walk β) (state : WalkState) :
    ((get : Walk WalkState) >>= f).run.run state = (f state).run.run state :=
  rfl

theorem run_work (action : Work α) (state : WalkState) :
    (Walk.work action).run.run state =
      (.ok (action.run state.work).1, { state with work := (action.run state.work).2 }) :=
  rfl

/-- What an assignment to a field comes to: it is refused, or there is nothing at the path, or what
is there has been assigned to, with success or without. -/
inductive Assigning (s : WalkSetting) (path : FieldPath) (l : Literal) (state : WalkState) :
    Except Fatal Unit × WalkState → Prop
  | unsettable : s.settable = false →
    Assigning s path l state (.error (.unsettable path.name), state)
  | unresolved : state.root.update (Value.set l) path.steps = none →
    Assigning s path l state (.error (.unresolved path.name), state)
  | assigned {outcome : Except SetError Unit} {root : Value} :
    state.root.update (Value.set l) path.steps = some (outcome, root) →
    Assigning s path l state (outcome.mapError (.assignment path.name), { state with root })

theorem run_assigning (s : WalkSetting) (path : FieldPath) (l : Literal) (state : WalkState) :
    Assigning s path l state ((Walk.assign s path l).run.run state) := by
  rw [Walk.assign]
  cases settable : s.settable with
  | false => exact .unsettable settable
  | true =>
    rw [Bool.not_true, if_neg Bool.false_ne_true, run_get]
    cases changes : state.root.update (Value.set l) path.steps with
    | none => exact .unresolved changes
    | some changed =>
      obtain ⟨outcome, root⟩ := changed
      cases outcome <;> exact .assigned changes

/-! ## Ways to run handlers -/

/-- A way to run a handler for the field at a path. -/
abbrev Runner := WalkSetting → FieldPath → FieldInfo → Handler → Prepared → Walk Verdict

namespace Walk

/-- Runs the handler of an annotation, if there is one, for the field at a path. -/
def annotation (run : Runner) (s : WalkSetting) (path : FieldPath) (info : FieldInfo)
    (pair : Pair) : Walk Verdict := do
  match ((← get).work.engine.registryNamed s.registry).handlers.get? pair.name with
  | none => pure .descend
  | some h => do run s path info h (← argumentOf s h pair)

/-- Runs the handlers of annotations in a certain way. -/
def dispatchBy (run : Runner) (s : WalkSetting) (path : FieldPath) (info : FieldInfo) :
    List Pair → Walk Verdict
  | [] => return .descend
  | pair :: pairs => do
    let verdict ← annotation run s path info pair
    return verdict.and (← dispatchBy run s path info pairs)

/-- Walks the fields of a structure, with handlers run in a certain way. -/
def walkFieldsBy (run : Runner) (s : WalkSetting) (descend : FieldPath → Walk Unit)
    (path : FieldPath) : Nat → List FieldInfo → Walk Unit
  | _, [] => return
  | index, info :: infos => do
    if info.exported then
      let field := path.pushField index (segment (← config) info)
      if (← dispatchBy run s field info (annotationPairs info.tag)) = .descend then
        descend field
    walkFieldsBy run s descend path (index + 1) infos

/-- Walks what is at a path, with handlers run in a certain way. -/
def descendBy (run : Runner) (s : WalkSetting) : Nat → FieldPath → Walk Unit
  | 0, _ => return
  | levels + 1, path => do
    match (← resolve path).map Value.view with
    | some (.record type _) => do
      let before := (← get).recorded
      walkFieldsBy run s (descendBy run s levels) path 0 type.fields
      selfValidate s path before
    | some (.pointer _) => descendBy run s levels path.pushDeref
    | some (.seq items) => walkItems (descendBy run s levels) path (List.range items.length)
    | _ => return

theorem dispatchBy_runHandler (s : WalkSetting) (path : FieldPath) (info : FieldInfo)
    (pairs : List Pair) : dispatchBy runHandler s path info pairs = dispatch s path info pairs := by
  induction pairs with
  | nil => rfl
  | cons pair pairs ih =>
    rw [dispatchBy, dispatch, ih, annotation, bind_assoc]
    refine congrArg (bind get) (funext fun state => ?_)
    cases (state.work.engine.registryNamed s.registry).handlers.get? pair.name with
    | none => rfl
    | some h => exact bind_assoc _ _ _

theorem walkFieldsBy_runHandler (s : WalkSetting) (descend : FieldPath → Walk Unit)
    (path : FieldPath) (index : Nat) (infos : List FieldInfo) :
    walkFieldsBy runHandler s descend path index infos = walkFields s descend path index infos := by
  induction infos generalizing index with
  | nil => rfl
  | cons info infos ih =>
    simp only [walkFieldsBy, walkFields, dispatchBy_runHandler, ih]

theorem descendBy_runHandler (s : WalkSetting) (levels : Nat) :
    descendBy runHandler s levels = descend s levels := by
  induction levels with
  | zero => rfl
  | succ levels ih =>
    funext path
    rw [descendBy, ih]
    simp only [walkFieldsBy_runHandler]
    rfl

/-- Dispatching respects what single annotations respect. -/
theorem dispatchBy_related (R : MonadRelation Walk Walk) {run run' : Runner} {s s' : WalkSetting}
    {path : FieldPath} {info : FieldInfo} {pairs : List Pair}
    (each : ∀ pair ∈ pairs, R.Rel (Walk.annotation run s path info pair)
      (Walk.annotation run' s' path info pair)) :
    R.Rel (dispatchBy run s path info pairs) (dispatchBy run' s' path info pairs) := by
  induction pairs with
  | nil => exact R.pure _
  | cons pair pairs ih =>
    have others := ih fun pair mem => each pair (List.mem_cons_of_mem _ mem)
    refine R.bind (each pair List.mem_cons_self) fun verdict => ?_
    exact R.bind others fun _ => R.pure _

/-- Recording several failures respects what recording one of them respects. -/
theorem records_related (R : MonadRelation Walk Walk) {name : String}
    (each : ∀ e, R.Rel (record name e) (record name e)) (failures : List Failure) :
    R.Rel (failures.forM (record name)) (failures.forM (record name)) := by
  induction failures with
  | nil => exact R.pure _
  | cons e failures ih => exact R.bind (each e) fun _ => ih

/-- Going by a verdict respects what giving up respects. -/
theorem verdict_related (R : MonadRelation Walk Walk)
    (throws : ∀ e, R.Rel (throw e : Walk Verdict) (throw e)) (verdict : Except Fatal Verdict) :
    R.Rel (liftM verdict : Walk Verdict) (liftM verdict) := by
  cases verdict with
  | ok verdict => exact R.pure verdict
  | error e => exact throws e

/-- What a walk does on its way, with handlers run in a certain way. -/
def conduct (run : Runner) (s : WalkSetting) : Conduct Walk where
  look := resolve
  config := config
  attend path info := dispatchBy run s path info (annotationPairs info.tag)
  enclose path x := do
    let before := (← get).recorded
    x
    selfValidate s path before

theorem fields_conduct (run : Runner) (s : WalkSetting) (descend : FieldPath → Walk Unit)
    (path : FieldPath) (index : Nat) (infos : List FieldInfo) :
    (conduct run s).fields descend path index infos =
      walkFieldsBy run s descend path index infos := by
  induction infos generalizing index with
  | nil => rfl
  | cons info infos ih =>
    rw [Conduct.fields, ih]
    rfl

theorem items_conduct (run : Runner) (s : WalkSetting) (descend : FieldPath → Walk Unit)
    (path : FieldPath) (indices : List Nat) :
    (conduct run s).items descend path indices = walkItems descend path indices := by
  induction indices with
  | nil => rfl
  | cons index indices ih =>
    rw [Conduct.items, ih]
    rfl

theorem descend_conduct (run : Runner) (s : WalkSetting) (levels : Nat) :
    (conduct run s).descend levels = descendBy run s levels := by
  induction levels with
  | zero => rfl
  | succ levels ih =>
    funext path
    rw [Conduct.descend, ih]
    simp only [fields_conduct, items_conduct]
    rfl

end Walk

/-- Walks a value, with handlers run in a certain way. -/
def walkValueBy (run : Runner) (s : WalkSetting) (v : Value) : Work WalkResult := do
  let (outcome, state) :=
    (Walk.descendBy run s v.depth .root).run.run { work := ← get, root := v }
  set state.work
  return ⟨outcome, state.root, state.failures⟩

/-- Validates a nested structure, with handlers run in a certain way. -/
def validateNestedBy (run : Runner) : Nat → Option Value → Value → Work Outcome
  | levels, root, v => do
    match v.indirect with
    | .record type fields =>
      match levels with
      | 0 => return .ok ()
      | levels + 1 =>
        let target := Value.record type fields
        let result ← walkValueBy run
          { registry := .validation
            settable := false
            outer := root
            selfValidate := (← get).engine.config.selfValidate
            nested := validateNestedBy run levels } target
        match result.outcome with
        | .error e => return .error { code := e.code, message := e.message }
        | .ok () =>
          if result.failures.size = 0 then return target.selfCheck
          else return .error (.nested result.failures)
    | other =>
      match other.view with
      | .null => return .ok ()
      | view => return .error (.unsupported "structure" view.kind.name)

theorem run_walkValueBy (run : Runner) (s : WalkSetting) (v : Value) (w : Workspace) :
    (walkValueBy run s v).run w =
      match (Walk.descendBy run s v.depth .root).run.run { work := w, root := v } with
      | (outcome, state) => (⟨outcome, state.root, state.failures⟩, state.work) :=
  rfl

theorem walkValueBy_runHandler (s : WalkSetting) (v : Value) :
    walkValueBy Walk.runHandler s v = walkValue s v := by
  rw [walkValueBy, Walk.descendBy_runHandler]
  rfl

theorem validateNestedBy_runHandler (levels : Nat) :
    validateNestedBy Walk.runHandler levels = validateNestedWithin levels := by
  have walks : walkValueBy Walk.runHandler = walkValue := funext₂ walkValueBy_runHandler
  induction levels with
  | zero =>
    funext root v
    unfold validateNestedBy validateNestedWithin
    rfl
  | succ levels ih =>
    funext root v
    unfold validateNestedBy
    simp only [walks, ih]
    unfold validateNestedWithin
    rfl

/-- A walk with a registry of the engine, with handlers run in a certain way. -/
def Engine.walkBy (run : Runner) (registry : RegistryName) (settable selfValidate : Bool)
    (outer : Option Value) (v : Value) : Work WalkResult :=
  walkValueBy run
    { registry, settable, selfValidate, outer, nested := validateNestedBy run v.depth } v

theorem walkBy_runHandler (registry : RegistryName) (settable selfValidate : Bool)
    (outer : Option Value) (v : Value) :
    Engine.walkBy Walk.runHandler registry settable selfValidate outer v =
      Engine.walkWith registry settable selfValidate outer v := by
  rw [Engine.walkBy, Engine.walkWith, walkValueBy_runHandler, validateNestedBy_runHandler]

/-! ## Pairs of runs -/

/-- Two runs with the same result, from related workspaces to related workspaces. -/
def pairing (rel : Workspace → Workspace → Prop) : MonadRelation Work Work where
  Rel x y := ∀ w w', rel w w' → ∃ a after after', x.run w = (a, after) ∧ y.run w' = (a, after') ∧
    rel after after'
  pure a w w' related := ⟨a, w, w', rfl, rfl, related⟩
  bind {α β x y f g} first second w w' related := by
    obtain ⟨a, between, between', runs, runs', between_related⟩ := first w w' related
    obtain ⟨b, after, after', rest, rest', after_related⟩ :=
      second a between between' between_related
    refine ⟨b, after, after', ?_, ?_, after_related⟩
    · rw [StateT.run_bind, runs]
      exact rest
    · rw [StateT.run_bind, runs']
      exact rest'

/-- States that differ in related workspaces. -/
structure Abreast (rel : Workspace → Workspace → Prop) (state state' : WalkState) : Prop where
  work : rel state.work state'.work
  root : state.root = state'.root
  failures : state.failures = state'.failures
  recorded : state.recorded = state'.recorded

/-- Two walks that end in the same way, from states abreast to states abreast. -/
def walkPairing (rel : Workspace → Workspace → Prop) : MonadRelation Walk Walk where
  Rel x y := ∀ state state', Abreast rel state state' → ∃ result after after',
    x.run.run state = (result, after) ∧ y.run.run state' = (result, after') ∧
    Abreast rel after after'
  pure a state state' abreast := ⟨.ok a, state, state', rfl, rfl, abreast⟩
  bind {α β x y f g} first second state state' abreast := by
    obtain ⟨result, between, between', runs, runs', abreast⟩ := first state state' abreast
    rw [run_bind, run_bind, runs, runs']
    cases result with
    | error e => exact ⟨.error e, between, between', rfl, rfl, abreast⟩
    | ok a => exact second a between between' abreast

/-- Related workspaces have one configuration, and journals do not matter. -/
structure Unjournaled (rel : Workspace → Workspace → Prop) : Prop where
  config {w w' : Workspace} : rel w w' → w.engine.config = w'.engine.config
  visit {w w' : Workspace} (visit : Visit) : rel w w' →
    rel { w with visits := visit :: w.visits } { w' with visits := visit :: w'.visits }
  notes {w w' : Workspace} (notes : List Note) : rel w w' →
    rel { w with notes := notes ++ w.notes } { w' with notes := notes ++ w'.notes }

/-- Settings that differ in how nested structures are validated, with the same results. -/
structure Alike (rel : Workspace → Workspace → Prop) (s s' : WalkSetting) : Prop where
  registry : s.registry = s'.registry
  settable : s.settable = s'.settable
  outer : s.outer = s'.outer
  selfValidate : s.selfValidate = s'.selfValidate
  nested : ∀ root v, (pairing rel).Rel (s.nested root v) (s'.nested root v)

/-- The handlers that a registry has for the annotations of fields may be run either way. -/
def Dispatches (rel : Workspace → Workspace → Prop) (run run' : Runner)
    (registry : RegistryName) : Prop :=
  ∀ ⦃s s' : WalkSetting⦄, Alike rel s s' → s.registry = registry →
    ∀ (path : FieldPath) (info : FieldInfo), ∀ pair ∈ annotationPairs info.tag,
      (walkPairing rel).Rel (Walk.annotation run s path info pair)
        (Walk.annotation run' s' path info pair)

section pairs

variable {rel : Workspace → Workspace → Prop} {s s' : WalkSetting} {run run' : Runner}

/-! ## Single steps -/

theorem paired_throw (e : Fatal) :
    (walkPairing rel).Rel (throw e : Walk α) (throw e) :=
  fun state state' abreast => ⟨.error e, state, state', rfl, rfl, abreast⟩

/-- Work that looks at the workspace goes on as it does for related workspaces. -/
theorem paired_workspace {f f' : Workspace → Work α}
    (each : ∀ w w', rel w w' → (pairing rel).Rel (f w) (f' w')) :
    (pairing rel).Rel (get >>= f) (get >>= f') :=
  fun w w' related => each w w' related w w' related

/-- Walks that look at their states go on as they do for states abreast. -/
theorem paired_get {f f' : WalkState → Walk α}
    (each : ∀ state state', Abreast rel state state' →
      (walkPairing rel).Rel (f state) (f' state')) :
    (walkPairing rel).Rel (get >>= f) (get >>= f') :=
  fun state state' abreast => each state state' abreast state state' abreast

theorem paired_work {x y : Work α} (related : (pairing rel).Rel x y) :
    (walkPairing rel).Rel (Walk.work x) (Walk.work y) := by
  intro state state' abreast
  obtain ⟨a, after, after', runs, runs', after_related⟩ := related _ _ abreast.work
  rw [run_work, run_work, runs, runs']
  exact ⟨.ok a, _, _, rfl, rfl, { abreast with work := after_related }⟩

theorem paired_resolve (path : FieldPath) :
    (walkPairing rel).Rel (Walk.resolve path) (Walk.resolve path) := by
  refine paired_get fun state state' abreast => ?_
  rw [abreast.root]
  exact (walkPairing rel).pure _

theorem paired_record (path : String) (e : Failure) :
    (walkPairing rel).Rel (Walk.record path e) (Walk.record path e) := by
  intro state state' abreast
  refine ⟨.ok (), _, _, rfl, rfl, abreast.work, abreast.root, ?_, ?_⟩
  · exact congrArg (·.record path e) abreast.failures
  · exact congrArg (· + 1) abreast.recorded

theorem paired_config (journals : Unjournaled rel) :
    (walkPairing rel).Rel Walk.config Walk.config := by
  refine paired_get fun state state' abreast => ?_
  rw [journals.config abreast.work]
  exact (walkPairing rel).pure _

theorem paired_notes (journals : Unjournaled rel) (notes : List Note) :
    (pairing rel).Rel (modify fun w => { w with notes := notes ++ w.notes })
      (modify fun w => { w with notes := notes ++ w.notes }) :=
  fun _ _ related => ⟨(), _, _, rfl, rfl, journals.notes notes related⟩

theorem paired_check (journals : Unjournaled rel) (c : Check) (root : Option Value) (v : Value) :
    (pairing rel).Rel (Work.check c root v) (Work.check c root v) :=
  fun _ _ related => ⟨c.test root v, _, _, rfl, rfl, journals.visit ⟨c, root, v⟩ related⟩

/-- A validator gives the same results if the validations of nested structures do. -/
theorem paired_validator (journals : Unjournaled rel)
    {nested nested' : Option Value → Value → Work Outcome}
    (alike : ∀ root v, (pairing rel).Rel (nested root v) (nested' root v)) (validator : Validator)
    (root : Option Value) (v : Value) :
    (pairing rel).Rel (validator.run ⟨Work.check, nested⟩ root v)
      (validator.run ⟨Work.check, nested'⟩ root v) := by
  have parts : Validator.PartsRelated fun v v' => v = v' ∧ True :=
    Value.partsRelated_of_closed fun _ _ _ _ => trivial
  refine Validator.run_related (pairing rel) parts ?_ validator ?_ ⟨rfl, trivial⟩
  · rintro u _ ⟨rfl, -⟩
    exact alike root u
  · rintro c - u _ ⟨rfl, -⟩
    exact paired_check journals c root u

/-! ## Handlers -/

theorem paired_assign (alike : Alike rel s s') (path : FieldPath) (l : Literal) :
    (walkPairing rel).Rel (Walk.assign s path l) (Walk.assign s' path l) := by
  rw [Walk.assign, Walk.assign, alike.settable]
  cases s'.settable with
  | false => exact paired_throw _
  | true =>
    rw [Bool.not_true, if_neg Bool.false_ne_true]
    intro state state' abreast
    rw [run_get, run_get, abreast.root]
    cases state'.root.update (Value.set l) path.steps with
    | none => exact ⟨.error _, state, state', rfl, rfl, abreast⟩
    | some changed =>
      obtain ⟨outcome, root⟩ := changed
      have set_abreast : Abreast rel { state with root } { state' with root } :=
        { abreast with root := rfl }
      cases outcome with
      | ok _ => exact ⟨.ok (), _, _, rfl, rfl, set_abreast⟩
      | error e => exact ⟨.error _, _, _, rfl, rfl, set_abreast⟩

theorem paired_validateField (journals : Unjournaled rel) (alike : Alike rel s s')
    (path : FieldPath) (v : Validator) :
    (walkPairing rel).Rel (Walk.validateField s path v) (Walk.validateField s' path v) := by
  refine (walkPairing rel).bind (paired_resolve path) fun value => ?_
  cases value with
  | none => exact paired_throw _
  | some value =>
    refine paired_get fun state state' abreast => ?_
    rw [abreast.root, alike.outer]
    have checked :=
      paired_validator journals alike.nested v (some (s'.outer.getD state'.root)) value
    refine (walkPairing rel).bind (paired_work checked) fun outcome => ?_
    cases outcome with
    | ok _ => exact (walkPairing rel).pure _
    | error e =>
      exact (walkPairing rel).bind (paired_record _ e) fun _ => (walkPairing rel).pure _

theorem paired_react (journals : Unjournaled rel) (alike : Alike rel s s') (path : FieldPath)
    (reaction : Reaction) :
    (walkPairing rel).Rel (Walk.react s path reaction) (Walk.react s' path reaction) := by
  have noted := paired_work (paired_notes journals reaction.notes.reverse)
  refine (walkPairing rel).bind noted fun _ => ?_
  have recorded :=
    Walk.records_related (walkPairing rel) (paired_record path.name) reaction.failures
  refine (walkPairing rel).bind recorded fun _ => ?_
  have verdict := Walk.verdict_related (walkPairing rel) paired_throw reaction.verdict
  cases reaction.assign with
  | none => exact verdict
  | some l => exact (walkPairing rel).bind (paired_assign alike path l) fun _ => verdict

/-- A handler does the same for a field with the same argument. -/
theorem paired_runHandler (journals : Unjournaled rel) (alike : Alike rel s s') (path : FieldPath)
    (info : FieldInfo) (h : Handler) (argument : Prepared) :
    (walkPairing rel).Rel (Walk.runHandler s path info h argument)
      (Walk.runHandler s' path info h argument) := by
  cases h with
  | validate shared =>
    rw [Walk.runHandler, Walk.runHandler]
    cases argument.as? .rule with
    | none => exact paired_throw _
    | some v => exact paired_validateField journals alike path v
  | plain h =>
    rw [Walk.runHandler, Walk.runHandler]
    cases argument.as? h.sort with
    | none => exact paired_throw _
    | some payload =>
      refine paired_get fun state state' abreast => ?_
      rw [abreast.root, abreast.failures, alike.outer, alike.settable]
      exact paired_react journals alike path _

/-! ## Structures -/

theorem paired_selfValidate (alike : Alike rel s s') (path : FieldPath) (before : Nat) :
    (walkPairing rel).Rel (Walk.selfValidate s path before)
      (Walk.selfValidate s' path before) := by
  refine paired_get fun state state' abreast => ?_
  rw [alike.selfValidate, abreast.recorded]
  split
  · refine (walkPairing rel).bind (paired_resolve path) fun value => ?_
    cases value with
    | none => exact (walkPairing rel).pure _
    | some v =>
      dsimp only
      split
      · exact (walkPairing rel).pure _
      · exact paired_record _ _
  · exact (walkPairing rel).pure _

/-- Two ways to run handlers that are related for the single annotation are related for a walk. -/
theorem related_conduct (journals : Unjournaled rel)
    (dispatches : Dispatches rel run run' s.registry) (alike : Alike rel s s') :
    Conduct.Related (walkPairing rel) (fun _ => True) (Walk.conduct run s)
      (Walk.conduct run' s') where
  look path f f' next := (walkPairing rel).bind (paired_resolve path) fun value =>
    next value fun _ _ _ => trivial
  config := paired_config journals
  attend path _ info _ _ := Walk.dispatchBy_related _ (dispatches alike rfl path info)
  enclose path x x' fields := paired_get fun state state' abreast => by
    rw [abreast.recorded]
    exact (walkPairing rel).bind fields fun _ => paired_selfValidate alike path _

theorem paired_descend (journals : Unjournaled rel)
    (dispatches : Dispatches rel run run' s.registry) (alike : Alike rel s s') (levels : Nat)
    (path : FieldPath) :
    (walkPairing rel).Rel (Walk.descendBy run s levels path)
      (Walk.descendBy run' s' levels path) := by
  rw [← Walk.descend_conduct, ← Walk.descend_conduct]
  exact (related_conduct journals dispatches alike).descend levels path

theorem paired_walkValue (journals : Unjournaled rel)
    (dispatches : Dispatches rel run run' s.registry) (alike : Alike rel s s') (v : Value) :
    (pairing rel).Rel (walkValueBy run s v) (walkValueBy run' s' v) := by
  intro w w' related
  have start : Abreast rel { work := w, root := v } { work := w', root := v } :=
    ⟨related, rfl, rfl, rfl⟩
  obtain ⟨outcome, after, after', runs, runs', abreast⟩ :=
    paired_descend journals dispatches alike v.depth .root _ _ start
  refine ⟨⟨outcome, after.root, after.failures⟩, after.work, after'.work, ?_, ?_, abreast.work⟩
  · rw [run_walkValueBy, runs]
  · rw [run_walkValueBy, runs', abreast.root, abreast.failures]

theorem paired_validateNested (journals : Unjournaled rel)
    (dispatches : Dispatches rel run run' .validation) (levels : Nat) (root : Option Value)
    (v : Value) :
    (pairing rel).Rel (validateNestedBy run levels root v)
      (validateNestedBy run' levels root v) := by
  induction levels generalizing root v with
  | zero =>
    rw [validateNestedBy, validateNestedBy]
    split
    · exact (pairing rel).pure _
    · split <;> exact (pairing rel).pure _
  | succ levels ih =>
    rw [validateNestedBy, validateNestedBy]
    split
    · refine paired_workspace fun w w' related => ?_
      refine (pairing rel).bind (paired_walkValue journals ?_ ?_ _) fun result => ?_
      · exact dispatches
      · exact ⟨rfl, rfl, rfl, congrArg Config.selfValidate (journals.config related), ih⟩
      · cases result.outcome with
        | error e => exact (pairing rel).pure _
        | ok _ =>
          dsimp only
          split <;> exact (pairing rel).pure _
    · split <;> exact (pairing rel).pure _

theorem paired_walk {registry : RegistryName} (journals : Unjournaled rel)
    (dispatches : Dispatches rel run run' registry)
    (validates : Dispatches rel run run' .validation) (settable selfValidate : Bool)
    (outer : Option Value) (v : Value) :
    (pairing rel).Rel (Engine.walkBy run registry settable selfValidate outer v)
      (Engine.walkBy run' registry settable selfValidate outer v) := by
  refine paired_walkValue journals dispatches ?_ v
  exact ⟨rfl, rfl, rfl, rfl, paired_validateNested journals validates v.depth⟩

/-! ## What is asked of an engine -/

/-- Related workspaces give a rule the same validator, and are related after they did. -/
def Builds (rel : Workspace → Workspace → Prop) : Prop :=
  ∀ ⦃w w' : Workspace⦄ (rule : String), rel w w' →
    ((Work.build rule).run w).1.map Handle.validator =
      ((Work.build rule).run w').1.map Handle.validator ∧
    rel ((Work.build rule).run w).2 ((Work.build rule).run w').2

theorem paired_build (builds : Builds rel) (rule : String)
    {f f' : Except BuildError Handle → Work α}
    (each : ∀ result result' : Except BuildError Handle,
      result.map Handle.validator = result'.map Handle.validator →
      (pairing rel).Rel (f result) (f' result')) :
    (pairing rel).Rel (Work.build rule >>= f) (Work.build rule >>= f') := by
  intro w w' related
  obtain ⟨same, after_related⟩ := builds rule related
  exact each _ _ same _ _ after_related

section requests

variable (journals : Unjournaled rel)
  (validates : Dispatches rel Walk.runHandler Walk.runHandler .validation)

include journals validates

theorem paired_nested (levels : Nat) (root : Option Value) (v : Value) :
    (pairing rel).Rel (validateNestedWithin levels root v)
      (validateNestedWithin levels root v) := by
  rw [← validateNestedBy_runHandler]
  exact paired_validateNested journals validates levels root v

theorem paired_walkWith {registry : RegistryName}
    (dispatches : Dispatches rel Walk.runHandler Walk.runHandler registry)
    (settable selfValidate : Bool) (outer : Option Value) (v : Value) :
    (pairing rel).Rel (Engine.walkWith registry settable selfValidate outer v)
      (Engine.walkWith registry settable selfValidate outer v) := by
  rw [← walkBy_runHandler]
  exact paired_walk journals dispatches validates settable selfValidate outer v

theorem paired_run (validator : Validator) (root : Option Value) (v : Value) :
    (pairing rel).Rel (Engine.run validator root v) (Engine.run validator root v) :=
  paired_validator journals (paired_nested journals validates v.depth) validator root v

theorem paired_validate (builds : Builds rel) (v : Value) (rule : String) :
    (pairing rel).Rel (Engine.validate v rule) (Engine.validate v rule) := by
  refine paired_build builds rule fun result result' same => ?_
  cases result with
  | error e =>
    cases result' with
    | error e' =>
      cases same
      exact (pairing rel).pure _
    | ok _ => cases same
  | ok handle =>
    cases result' with
    | error _ => cases same
    | ok handle' =>
      have validators : handle.validator = handle'.validator := Except.ok.inj same
      dsimp only
      rw [validators]
      refine (pairing rel).bind (paired_run journals validates _ _ v) fun outcome => ?_
      cases outcome with
      | ok _ => exact (pairing rel).pure _
      | error e => exact (pairing rel).pure _

theorem paired_validateStruct (v : Value) :
    (pairing rel).Rel (Engine.validateStruct v) (Engine.validateStruct v) := by
  refine paired_workspace fun w w' related => ?_
  rw [journals.config related]
  have walked := paired_walkWith journals validates validates false
    w'.engine.config.selfValidate none v
  refine (pairing rel).bind walked fun result => ?_
  cases result.outcome with
  | error e => exact (pairing rel).pure _
  | ok _ =>
    dsimp only
    split <;> exact (pairing rel).pure _

end requests

end pairs

end RecordRules

import RecordRules.Proofs.Engine.Lasting
import RecordRules.Proofs.Engine.Stepping

/-!
# The outermost value

Checks are shown a root besides the value that they check.  Validation hands the root down
through validators, walks and validations of nested structures; a walk that was not handed
any takes the value that it walks.  So all that checks ever see as the root is the value
that the caller asked about.

The journal of a workspace has every check with the root that it was shown.  What is
followed here is what work adds to it.
-/

namespace RecordRules

/-! ## Work -/

/-- The checks that work makes are all shown one root. -/
def Shows {α : Type} (root : Value) (x : Work α) : Prop :=
  ∀ w, ∃ visits, (x.run w).2.visits = visits ++ w.visits ∧ ∀ visit ∈ visits, visit.root = some root

theorem shows_pure {α : Type} (root : Value) (a : α) : Shows root (pure a) :=
  fun _ => ⟨[], rfl, List.forall_mem_nil _⟩

theorem shows_bind {α β : Type} {root : Value} {x : Work α} {f : α → Work β} (first : Shows root x)
    (second : ∀ a, Shows root (f a)) : Shows root (x >>= f) := by
  intro w
  obtain ⟨visits, made, shown⟩ := first w
  obtain ⟨visits', made', shown'⟩ := second (x.run w).1 (x.run w).2
  refine ⟨visits' ++ visits, ?_, List.forall_mem_append.mpr ⟨shown', shown⟩⟩
  rw [List.append_assoc, ← made]
  exact made'

/-- Work that shows its checks a root, as a relation that a run of a validator respects. -/
def showing (root : Value) : MonadRelation Work Work where
  Rel x _ := Shows root x
  pure := shows_pure root
  bind first second := shows_bind first second

theorem shows_get {α : Type} {root : Value} {f : Workspace → Work α}
    (each : ∀ w, Shows root (f w)) : Shows root (get >>= f) :=
  fun w => each w w

/-- A check is shown the root that it is run with. -/
theorem shows_check (c : Check) (root v : Value) : Shows root (Work.check c (some root) v) := by
  intro w
  rw [Work.run_check]
  exact ⟨[⟨c, some root, v⟩], rfl, List.forall_mem_singleton.mpr rfl⟩

/-- A rule is compiled without any check. -/
theorem shows_build (root : Value) (rule : String) : Shows root (Work.build rule) :=
  fun _ => ⟨[], rfl, List.forall_mem_nil _⟩

/-- A validator hands on the root that it is run with. -/
theorem shows_run {root : Value} {nested : Option Value → Value → Work Outcome}
    (shows : ∀ v, Shows root (nested (some root) v)) (validator : Validator) (v : Value) :
    Shows root (validator.run ⟨Work.check, nested⟩ (some root) v) := by
  have parts : Validator.PartsRelated fun v v' => v = v' ∧ True :=
    Value.partsRelated_of_closed fun _ _ _ _ => trivial
  have related : (showing root).Rel (validator.run ⟨Work.check, nested⟩ (some root) v)
      (validator.run ⟨Work.check, nested⟩ (some root) v) := by
    refine Validator.run_related (showing root) parts ?_ validator ?_ ⟨rfl, trivial⟩
    · rintro u _ -
      exact shows u
    · rintro c - u _ -
      exact shows_check c root u
  exact related

/-! ## Walks -/

/-- The root that a walk shows to checks is the value handed to it, or else what it walks. -/
def WalkSetting.Sees (s : WalkSetting) (root : Value) (state : WalkState) : Prop :=
  s.outer.getD state.root = root

/-- Walks whose checks are all shown one root, and which keep showing it. -/
def walkShowing (s : WalkSetting) (root : Value) : MonadRelation Walk Walk where
  Rel x _ := ∀ state, s.Sees root state → s.Sees root (x.run.run state).2 ∧
    ∃ visits, (x.run.run state).2.work.visits = visits ++ state.work.visits ∧
      ∀ visit ∈ visits, visit.root = some root
  pure a state sees := ⟨sees, [], rfl, List.forall_mem_nil _⟩
  bind {α β x y f g} first second state sees := by
    obtain ⟨between, visits, made, shown⟩ := first state sees
    rw [run_bind]
    generalize x.run.run state = after at between made ⊢
    obtain ⟨result, after⟩ := after
    cases result with
    | error e => exact ⟨between, visits, made, shown⟩
    | ok a =>
      obtain ⟨kept, visits', made', shown'⟩ := second a after between
      refine ⟨kept, visits' ++ visits, ?_, List.forall_mem_append.mpr ⟨shown', shown⟩⟩
      rw [made', made, List.append_assoc]

section walks

variable {α : Type} {s : WalkSetting} {root : Value}

/-- A step that neither makes checks nor changes what is walked. -/
theorem walkShowing_quiet {x y : Walk α}
    (quiet : ∀ state, (x.run.run state).2.root = state.root ∧
      (x.run.run state).2.work.visits = state.work.visits) : (walkShowing s root).Rel x y := by
  intro state sees
  obtain ⟨same, made⟩ := quiet state
  refine ⟨?_, [], made, List.forall_mem_nil _⟩
  rw [WalkSetting.Sees, same]
  exact sees

theorem walkShowing_get {f : WalkState → Walk α}
    (each : ∀ state, s.Sees root state → (walkShowing s root).Rel (f state) (f state)) :
    (walkShowing s root).Rel (get >>= f) (get >>= f) :=
  fun state sees => each state sees state sees

/-- Where nothing can be assigned, the handlers of a field keep the root as it is and show it to
their checks. -/
theorem respects_walkShowing (fixed : s.settable = false)
    (shows : ∀ v, Shows root (s.nested (some root) v)) (path : FieldPath) :
    Respects (walkShowing s root) (s.Sees root) s path where
  get := walkShowing_get
  throw e := walkShowing_quiet fun _ => ⟨rfl, rfl⟩
  argumentOf h pair := walkShowing_quiet fun state => by
    obtain ⟨result, work, runs, argued⟩ := argumentOf_run s h pair state
    rw [runs]
    exact ⟨rfl, argued.visits⟩
  validate validator value state sees := by
    rw [show s.outer.getD state.root = root from sees]
    exact fun state sees => ⟨sees, shows_run shows validator value state.work⟩
  note notes := walkShowing_quiet fun _ => ⟨rfl, rfl⟩
  record e := walkShowing_quiet fun _ => ⟨rfl, rfl⟩
  assign l := by
    rw [Walk.assign, fixed]
    exact walkShowing_quiet fun _ => ⟨rfl, rfl⟩

theorem walkShowing_descend (fixed : s.settable = false)
    (shows : ∀ v, Shows root (s.nested (some root) v)) (levels : Nat) (path : FieldPath) :
    (walkShowing s root).Rel (Walk.descend s levels path) (Walk.descend s levels path) := by
  rw [← Walk.descendBy_runHandler, ← Walk.descend_conduct]
  have respects := respects_walkShowing fixed shows
  have related : Conduct.Related (walkShowing s root) (fun _ => True)
      (Walk.conduct Walk.runHandler s) (Walk.conduct Walk.runHandler s) :=
    { look := fun path f f' next => (walkShowing s root).bind (respects path).resolve fun value =>
        next value fun _ _ _ => trivial
      config := walkShowing_quiet fun _ => ⟨rfl, rfl⟩
      attend := fun path _ info _ _ => (respects path).dispatch info _
      enclose := fun path x x' fields => walkShowing_get fun state _ =>
        (walkShowing s root).bind fields fun _ => (respects path).selfValidate _ }
  exact related.descend levels path

/-- A walk that changes nothing shows its checks the value that was handed to it, or else the
value that it walks. -/
theorem shows_walkValue (fixed : s.settable = false) {v : Value} (seen : s.outer.getD v = root)
    (shows : ∀ v, Shows root (s.nested (some root) v)) : Shows root (walkValue s v) := by
  intro w
  exact (walkShowing_descend fixed shows v.depth .root { work := w, root := v } seen).2

end walks

/-! ## Validation -/

/-- Nested structures are validated under the root that was handed down. -/
theorem shows_nested (levels : Nat) (root v : Value) :
    Shows root (validateNestedWithin levels (some root) v) := by
  induction levels generalizing v with
  | zero =>
    rw [validateNestedWithin]
    split
    · exact shows_pure root _
    · split <;> exact shows_pure root _
  | succ levels ih =>
    rw [validateNestedWithin]
    split
    · refine shows_get fun w => shows_bind (shows_walkValue rfl rfl ih) fun result => ?_
      cases result.outcome with
      | error e => exact shows_pure root _
      | ok _ =>
        dsimp only
        split <;> exact shows_pure root _
    · split <;> exact shows_pure root _

theorem shows_validateStruct (v : Value) : Shows v (Engine.validateStruct v) := by
  refine shows_get fun w => ?_
  refine shows_bind (shows_walkValue rfl rfl (shows_nested v.depth v)) fun result => ?_
  cases result.outcome with
  | error e => exact shows_pure v _
  | ok _ =>
    dsimp only
    split <;> exact shows_pure v _

theorem shows_validate (v : Value) (rule : String) : Shows v (Engine.validate v rule) := by
  refine shows_bind (shows_build v rule) fun result => ?_
  cases result with
  | error e => exact shows_pure v _
  | ok handle =>
    refine shows_bind (shows_run (shows_nested v.depth v) handle.validator v) fun outcome => ?_
    cases outcome with
    | ok _ => exact shows_pure v _
    | error e => exact shows_pure v _

/-- Whatever an engine has been through, whatever a value is like and whatever its annotations
say: every check that is made while the structure is validated, or while the value is checked
against a rule, is shown the value itself as the root. -/
theorem checks_see_outermost (w : Workspace) (v : Value) (rule : String) :
    (∃ visits, ((Engine.validateStruct v).run w).2.visits = visits ++ w.visits ∧
      ∀ visit ∈ visits, visit.root = some v) ∧
    ∃ visits, ((Engine.validate v rule).run w).2.visits = visits ++ w.visits ∧
      ∀ visit ∈ visits, visit.root = some v :=
  ⟨shows_validateStruct v w, shows_validate v rule w⟩

/-- A check two structures down, the inner one in a list. -/
example :
    let usage : RecordType :=
      { name := "Usage", fields := [{ name := "used", tag := "validate:\"max==5\"" }] }
    let period : RecordType :=
      { name := "Period", fields := [{ name := "days", tag := "validate:\"array(structure)\"" }] }
    let account : RecordType :=
      { name := "Account", fields := [{ name := "period", tag := "validate:\"structure\"" }] }
    let v : Value := .record account
      [.record period [.seq [.record usage [.text "one"], .record usage [.text "three"]]]]
    let visits := ((Engine.validateStruct v).run { engine := Engine.new {} }).2.visits
    visits.map (fun visit => (visit.root.map Value.describe, visit.value.describe)) =
      [(some "Struct(Account)", "Str(\"three\")"), (some "Struct(Account)", "Str(\"one\")")] := by
  decide +kernel

end RecordRules

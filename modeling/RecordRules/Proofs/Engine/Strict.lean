import RecordRules.Proofs.Check.Tame
import RecordRules.Proofs.Engine.Following
import RecordRules.Proofs.Except
import RecordRules.Proofs.Failure.Recording

/-!
# Strict inspections

A validator of a nested structure makes a failure of an error that ends its inspection.
A strict inspection does not: such an error ends it as a whole.  If it comes to an end
otherwise, there was no such error, and other inspections of the value end in the same
way.

Strict inspections are compared with each other as long as they succeed: one tracks
another if it succeeds with the same result and if what it reports comes to the same.
-/

namespace RecordRules

/-- Checks leave nothing behind, and an error in a nested structure ends everything. -/
def strict : Reading.Effects (Except Fatal) where
  check c root v := .ok (c.test root v)
  interrupted e := .error e

/-- Checks leave nothing behind, and an error in a nested structure is a failure of it. -/
def lenient : Reading.Effects (Except Fatal) where
  check c root v := .ok (c.test root v)
  interrupted e := .ok (.error { code := e.code, message := e.message })

/-- While a value is inspected, no error ends the validation of a structure that a validator has
been asked to validate. -/
def Reading.Uninterrupted (reading : Reading) (v : Value) : Prop :=
  ∃ result, reading.inspect strict v = .ok result

/-- What is certain to be the result, whatever is in the journal. -/
def settling : MonadRelation (Except Fatal) Journal where
  Rel x y := ∀ a, x = .ok a → ∀ visits, (y.run visits).1 = a
  pure a b is visits := by
    cases is
    rfl
  bind {α β x y f g} first second b is visits := by
    obtain ⟨a, isFirst, isSecond⟩ := bind_eq_ok_iff.mp is
    have result := first a isFirst visits
    rw [StateT.run_bind]
    generalize y.run visits = ran at result ⊢
    cases result
    exact second _ b isSecond ran.2

theorem settling_strict : Reading.EffectsRelated settling strict journal where
  check c root v outcome is visits := by
    cases is
    rfl
  interrupted e outcome is := by cases is

theorem settling_lenient : Reading.EffectsRelated settling lenient journal where
  check c root v outcome is visits := by
    cases is
    rfl
  interrupted e outcome is visits := by
    cases is
    rfl

/-! ## Successful computations -/

/-- Computations the second of which succeeds if the first one does, with the same result. -/
def agreeing : MonadRelation (Except Fatal) (Except Fatal) where
  Rel x y := ∀ a, x = .ok a → y = .ok a
  pure _ _ is := is
  bind {α β x y f g} first second b is := by
    obtain ⟨a, isFirst, isSecond⟩ := bind_eq_ok_iff.mp is
    exact bind_eq_ok_iff.mpr ⟨a, first a isFirst, second a b isSecond⟩

namespace Inspect

variable {α β : Type}

theorem pure_bind_strict (a : α) (f : α → Inspect (Except Fatal) β) : pure a >>= f = f a := by
  change (pure a >>= f).run = (f a).run
  rw [run_bind]
  change (do let second ← (f a).run; return ⟨[] ++ second.recorded, second.result⟩) = (f a).run
  cases (f a).run <;> rfl

theorem bind_run_ok {x : Inspect (Except Fatal) α} {f : α → Inspect (Except Fatal) β}
    {recorded : List (String × Failure)} {b : β} :
    (x >>= f).run = .ok ⟨recorded, .ok b⟩ ↔ ∃ first a second, x.run = .ok ⟨first, .ok a⟩ ∧
      (f a).run = .ok ⟨second, .ok b⟩ ∧ recorded = first ++ second := by
  rw [run_bind]
  constructor
  · intro is
    obtain ⟨⟨first, result⟩, isFirst, is⟩ := bind_eq_ok_iff.mp is
    cases result with
    | error e => cases is
    | ok a =>
      obtain ⟨⟨second, result⟩, isSecond, is⟩ := bind_eq_ok_iff.mp is
      cases is
      exact ⟨first, a, second, isFirst, isSecond, rfl⟩
  · rintro ⟨first, a, second, isFirst, isSecond, rfl⟩
    refine bind_eq_ok_iff.mpr ⟨_, isFirst, ?_⟩
    exact bind_eq_ok_iff.mpr ⟨_, isSecond, rfl⟩

theorem bind_run_error {x : Inspect (Except Fatal) α} {f : α → Inspect (Except Fatal) β}
    {recorded : List (String × Failure)} {e : Fatal} (fails : x.run = .ok ⟨recorded, .error e⟩) :
    (x >>= f).run = .ok ⟨recorded, .error e⟩ := by
  rw [run_bind, fails]
  rfl

theorem perform_run_ok {x : Except Fatal α} {recorded : List (String × Failure)} {a : α} :
    (perform x : Inspect (Except Fatal) α).run = .ok ⟨recorded, .ok a⟩ ↔
      x = .ok a ∧ recorded = [] := by
  cases x with
  | error e =>
    constructor
    · intro is
      cases is
    · rintro ⟨is, -⟩
      cases is
  | ok b =>
    constructor
    · intro is
      cases is
      exact ⟨rfl, rfl⟩
    · rintro ⟨is, rfl⟩
      cases is
      rfl

theorem clean_run_ok {x : Inspect (Except Fatal) Unit} {recorded : List (String × Failure)}
    {clean : Bool} :
    x.clean.run = .ok ⟨recorded, .ok clean⟩ ↔
      x.run = .ok ⟨recorded, .ok ()⟩ ∧ clean = recorded.isEmpty := by
  constructor
  · intro is
    obtain ⟨⟨first, result⟩, isFirst, is⟩ := bind_eq_ok_iff.mp is
    cases result with
    | error e => cases is
    | ok _ =>
      cases is
      exact ⟨isFirst, rfl⟩
  · rintro ⟨is, rfl⟩
    exact bind_eq_ok_iff.mpr ⟨_, is, rfl⟩

/-- What is reported of an outcome. -/
def reported (path : String) : Outcome → List (String × Failure)
  | .ok () => []
  | .error e => [(path, e)]

theorem report_run (path : String) (outcome : Outcome) :
    (report path outcome : Inspect (Except Fatal) Unit).run =
      .ok ⟨reported path outcome, .ok ()⟩ := by
  cases outcome <;> rfl

end Inspect

/-! ## Solid outcomes -/

namespace Failures

/-- The failure is one that is recorded, if there is one. -/
def SolidOutcome (outcome : Outcome) : Prop :=
  ∀ e, outcome = .error e → Solid e

theorem solidOutcome_ok : SolidOutcome (.ok ()) :=
  fun _ is => by cases is

theorem solidOutcome_error {e : Failure} (solid : Solid e) : SolidOutcome (.error e) :=
  fun _ is => by
    cases is
    exact solid

theorem solidOutcome_of_plain {outcome : Outcome} (plain : Check.Plain outcome) :
    SolidOutcome outcome :=
  fun e is => solid_of_none (plain e is)

end Failures

open Failures

namespace Validator

/-- All outcomes of a computation that succeeds are solid. -/
def Solidly (x : Except Fatal Outcome) : Prop :=
  ∀ outcome, x = .ok outcome → SolidOutcome outcome

theorem solidly_ok {outcome : Outcome} (solid : SolidOutcome outcome) :
    Solidly (pure outcome) := by
  intro other is
  cases is
  exact solid

theorem solidly_bind {x : Except Fatal Outcome} {f : Outcome → Except Fatal Outcome}
    (first : Solidly x) (second : ∀ outcome, SolidOutcome outcome → Solidly (f outcome)) :
    Solidly (x >>= f) := by
  intro result is
  obtain ⟨outcome, isFirst, is⟩ := bind_eq_ok_iff.mp is
  exact second outcome (first outcome isFirst) result is

theorem solidly_runEach {α : Type} {run : α → Except Fatal Outcome}
    {locate : α → Failure → Failure} {as : List α} (runs : ∀ a ∈ as, Solidly (run a))
    (keeps : ∀ a e, Solid e → Solid (locate a e)) : Solidly (runEach run locate as) := by
  induction as with
  | nil => exact solidly_ok solidOutcome_ok
  | cons a as ih =>
    obtain ⟨first, rest⟩ := List.forall_mem_cons.mp runs
    rw [runEach]
    refine solidly_bind first fun outcome solid => ?_
    cases outcome with
    | ok _ => exact ih rest
    | error e => exact solidly_ok (solidOutcome_error (keeps a e (solid e rfl)))

section run

variable {r : Runner (Except Fatal)} {root : Option Value} {P : Value → Prop}

mutual

/-- If single checks and nested structures have solid outcomes, so have validators. -/
theorem solidly_run (closed : ∀ v, P v → ∀ u ∈ v.parts, P u)
    (nested : ∀ v, P v → Solidly (r.nested root v)) (w : Validator)
    (checks : ∀ c ∈ w.checks, ∀ v, Solidly (r.check c root v)) {v : Value} (holds : P v) :
    Solidly (w.run r root v) := by
  match w with
  | .check c =>
    rw [run]
    exact checks c List.mem_cons_self v
  | .nested =>
    rw [run]
    exact nested v holds
  | .all ws =>
    rw [run]
    exact solidly_runAll closed nested ws checks holds
  | .any ws =>
    rw [run]
    exact solidly_runAny closed nested ws checks solidOutcome_ok holds
  | .items inner =>
    have inherit := closed v holds
    rw [Value.parts] at inherit
    rw [run]
    generalize v.indirect.view = view at inherit ⊢
    cases view with
    | seq items =>
      refine solidly_runEach (fun element mem => ?_) fun _ e solid => solid_inside solid _ _
      have member := List.fst_mem_of_mem_zipIdx mem
      exact solidly_run closed nested inner checks (inherit _ member)
    | null => exact solidly_ok solidOutcome_ok
    | bool _ | int _ | uint _ | float _ | str _ | record _ _ | map _ | pointer _ | entry _ _ =>
      exact solidly_ok (solidOutcome_error (solid_of_none rfl))
  | .parts part inner =>
    have inherit := closed v holds
    rw [Value.parts] at inherit
    rw [run]
    generalize v.indirect.view = view at inherit ⊢
    cases view with
    | map entries =>
      refine solidly_runEach (fun entry mem => ?_) fun _ e solid => solid_inside solid _ _
      have member := Value.target_mem_parts mem part
      exact solidly_run closed nested inner checks (inherit _ member)
    | null => exact solidly_ok solidOutcome_ok
    | bool _ | int _ | uint _ | float _ | str _ | record _ _ | seq _ | pointer _ | entry _ _ =>
      exact solidly_ok (solidOutcome_error (solid_of_none rfl))
  | .not inner =>
    rw [run]
    refine solidly_bind (solidly_run closed nested inner checks holds) fun outcome _ => ?_
    cases outcome with
    | ok _ => exact solidly_ok (solidOutcome_error (solid_of_none rfl))
    | error _ => exact solidly_ok solidOutcome_ok

theorem solidly_runAll (closed : ∀ v, P v → ∀ u ∈ v.parts, P u)
    (nested : ∀ v, P v → Solidly (r.nested root v)) (ws : List Validator)
    (checks : ∀ c ∈ allChecks ws, ∀ v, Solidly (r.check c root v)) {v : Value} (holds : P v) :
    Solidly (runAll r root ws v) := by
  match ws with
  | [] =>
    rw [runAll]
    exact solidly_ok solidOutcome_ok
  | w :: ws =>
    obtain ⟨firstChecks, otherChecks⟩ := forall_mem_allChecks_cons.mp checks
    have first := solidly_run closed nested w firstChecks holds
    rw [runAll]
    refine solidly_bind first fun outcome solid => ?_
    cases outcome with
    | ok _ => exact solidly_runAll closed nested ws otherChecks holds
    | error e => exact solidly_ok solid

theorem solidly_runAny (closed : ∀ v, P v → ∀ u ∈ v.parts, P u)
    (nested : ∀ v, P v → Solidly (r.nested root v)) (ws : List Validator)
    (checks : ∀ c ∈ allChecks ws, ∀ v, Solidly (r.check c root v)) {soFar : Outcome}
    (solid : SolidOutcome soFar) {v : Value} (holds : P v) :
    Solidly (runAny r root ws soFar v) := by
  match ws with
  | [] =>
    rw [runAny]
    exact solidly_ok solid
  | w :: ws =>
    obtain ⟨firstChecks, otherChecks⟩ := forall_mem_allChecks_cons.mp checks
    have first := solidly_run closed nested w firstChecks holds
    rw [runAny]
    refine solidly_bind first fun outcome solid => ?_
    cases outcome with
    | ok _ => exact solidly_ok solidOutcome_ok
    | error e => exact solidly_runAny closed nested ws otherChecks solid holds

end

end run

end Validator

/-! ## Tracking -/

/-- Inspections the second of which succeeds if the first one does, with the same result and with
reports that come to the same relative to a path. -/
def tracking (path : String) :
    MonadRelation (Inspect (Except Fatal)) (Inspect (Except Fatal)) where
  Rel x y := ∀ recorded a, x.run = .ok ⟨recorded, .ok a⟩ →
    ∃ relative, y.run = .ok ⟨relative, .ok a⟩ ∧ Traces path recorded relative
  pure a recorded b is := by
    cases is
    exact ⟨[], rfl, traces_nil path⟩
  bind {α β x y f g} first second recorded b is := by
    obtain ⟨recorded, a, recorded', isFirst, isSecond, rfl⟩ := Inspect.bind_run_ok.mp is
    obtain ⟨relative, isFirst', traces⟩ := first recorded a isFirst
    obtain ⟨relative', isSecond', traces'⟩ := second a recorded' b isSecond
    refine ⟨relative ++ relative', ?_, traces_append traces traces'⟩
    exact Inspect.bind_run_ok.mpr ⟨relative, a, relative', isFirst', isSecond', rfl⟩

section tracking

variable {path : String} {α β : Type}

theorem tracking_fail (e : Fatal) (y : Inspect (Except Fatal) α) :
    (tracking path).Rel (Inspect.fail e) y :=
  fun _ _ is => by cases is

theorem tracking_when {c : Prop} [Decidable c] {x y : Inspect (Except Fatal) Unit}
    (tracks : (tracking path).Rel x y) :
    (tracking path).Rel (Inspect.when c x) (Inspect.when c y) := by
  unfold Inspect.when
  split
  · exact tracks
  · exact (tracking path).pure ()

theorem tracking_clean {x y : Inspect (Except Fatal) Unit} (tracks : (tracking path).Rel x y) :
    (tracking path).Rel x.clean y.clean := by
  intro recorded clean is
  obtain ⟨runs, rfl⟩ := Inspect.clean_run_ok.mp is
  obtain ⟨relative, runs', traces⟩ := tracks recorded () runs
  refine ⟨relative, Inspect.clean_run_ok.mpr ⟨runs', ?_⟩, traces⟩
  rw [Bool.eq_iff_iff, List.isEmpty_iff, List.isEmpty_iff, traces.nil_iff]

theorem traces_reported (path place : String) {outcome : Outcome} (solid : SolidOutcome outcome) :
    Traces path (Inspect.reported (joinPath path place) outcome)
      (Inspect.reported place outcome) := by
  cases outcome with
  | ok _ => exact traces_nil path
  | error e => exact traces_single path place (solid e rfl)

theorem tracking_report (place : String) {outcome : Outcome} (solid : SolidOutcome outcome) :
    (tracking path).Rel (Inspect.report (joinPath path place) outcome)
      (Inspect.report place outcome) := by
  intro recorded a is
  rw [Inspect.report_run] at is
  cases is
  exact ⟨_, Inspect.report_run place outcome, traces_reported path place solid⟩

/-- Work that agrees comes first; what follows only has to track for its result. -/
theorem tracking_perform {x y : Except Fatal α} {f g : α → Inspect (Except Fatal) β}
    (agrees : agreeing.Rel x y) (rest : ∀ a, x = .ok a → (tracking path).Rel (f a) (g a)) :
    (tracking path).Rel (Inspect.perform x >>= f) (Inspect.perform y >>= g) := by
  intro recorded b is
  obtain ⟨first, a, recorded', isFirst, isSecond, rfl⟩ := Inspect.bind_run_ok.mp is
  obtain ⟨gives, rfl⟩ := Inspect.perform_run_ok.mp isFirst
  obtain ⟨relative, isSecond', traces⟩ := rest a gives recorded' b isSecond
  refine ⟨relative, ?_, traces⟩
  refine Inspect.bind_run_ok.mpr ⟨[], a, relative, ?_, isSecond', rfl⟩
  exact Inspect.perform_run_ok.mpr ⟨agrees a gives, rfl⟩

end tracking

end RecordRules

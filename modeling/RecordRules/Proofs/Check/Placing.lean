import RecordRules.Proofs.Check.Running
import RecordRules.Value.Path

/-!
# Validators at work in places

A validator gets from the value that it is run for to elements of sequences and to parts of
maps.  `Validator.runAt` follows it and tells the runner the place of the value at hand.  Apart
from this, it is `Validator.run` (`runAt_related`).

Some leaves of a validator look at the fields of nested structures.  Whether there are any is
all that `Validator.descends` tells, unless the validator negates another one
(`descends_iff_leaves`).
-/

namespace RecordRules

/-! ## Places -/

/-- A step from a value to a value inside it.  The steps of paths are among them, but none of
these gets into a map. -/
inductive Spot where
  | step (step : Step)
  /-- The part of an entry of a map; entries are counted. -/
  | part (part : MapPart) (index : Nat)
deriving DecidableEq

/-- Where a value is in the value that holds it: the spots on the way there, the last one first. -/
abbrev Place := List Spot

/-- The place of what the pointers lead to that the value at a place begins with. -/
def Value.behind (place : Place) : Value → Place
  | .present _ target => target.behind (.step .deref :: place)
  | .boxed target => target.behind (.step .deref :: place)
  | _ => place

namespace Validator

/-! ## Runs -/

section run

variable {m : Type → Type} [Monad m]

mutual

/-- Evaluates a validator for the value at a place, with a runner for every place. -/
def runAt (r : Place → Runner m) (root : Option Value) : Validator → Place → Value → m Outcome
  | check c, place, v => (r place).check c root v
  | nested, place, v => (r place).nested root v
  | all vs, place, v => runAllAt r root vs place v
  | any vs, place, v => runAnyAt r root vs (.ok ()) place v
  | items inner, place, v =>
    match v.indirect.view with
    | .seq elements =>
      runEach
        (fun element =>
          runAt r root inner (.step (.index element.2) :: v.behind place) element.1)
        (fun element e =>
          let index := toString element.2
          e.inside ("index " ++ index) ("[" ++ index ++ "]"))
        elements.zipIdx
    | .null => pure (.ok ())
    | other => pure (.error (.unsupported "array" other.kind.name))
  | parts part inner, place, v =>
    match v.indirect.view with
    | .map entries =>
      runEach
        (fun entry =>
          runAt r root inner (.part part entry.2 :: v.behind place) (part.target entry.1))
        (fun entry e =>
          let key := keyText entry.1.1
          e.inside (part.label key) ("[" ++ key ++ "]"))
        entries.zipIdx
    | .null => pure (.ok ())
    | other => pure (.error (.unsupported part.name other.kind.name))
  | not inner, place, v => do
    match ← runAt r root inner place v with
    | .ok () => return .error { code := "not", message := inner.rule ++ " holds" }
    | .error _ => return .ok ()

/-- Evaluates validators up to the first that fails. -/
def runAllAt (r : Place → Runner m) (root : Option Value) :
    List Validator → Place → Value → m Outcome
  | [], _, _ => pure (.ok ())
  | part :: rest, place, v => do
    match ← runAt r root part place v with
    | .ok () => runAllAt r root rest place v
    | .error e => return .error e

/-- Evaluates validators up to the first that passes, with the outcome of the last one before. -/
def runAnyAt (r : Place → Runner m) (root : Option Value) :
    List Validator → Outcome → Place → Value → m Outcome
  | [], soFar, _, _ => pure soFar
  | part :: rest, _, place, v => do
    match ← runAt r root part place v with
    | .ok () => return .ok ()
    | .error e => runAnyAt r root rest (.error e) place v

end

end run

section related

variable {m n : Type → Type} [Monad m] [Monad n] {R : MonadRelation m n} {r : Runner m}
  {r' : Place → Runner n} {root : Option Value}

theorem forall₂_zipIdx_left {α : Type} (as : List α) (start : Nat) :
    List.Forall₂ (fun a b => b.1 = a) as (as.zipIdx start) := by
  induction as generalizing start with
  | nil => exact .nil
  | cons a as ih => exact .cons rfl (ih (start + 1))

/-- The runner does in every place what another one does without knowing the place. -/
structure RunsAlike (R : MonadRelation m n) (r : Runner m) (r' : Place → Runner n)
    (root : Option Value) : Prop where
  check (place : Place) (c : Check) (v : Value) :
    R.Rel (r.check c root v) ((r' place).check c root v)
  nested (place : Place) (v : Value) : R.Rel (r.nested root v) ((r' place).nested root v)

mutual

theorem runAt_related (alike : RunsAlike R r r' root) (w : Validator) (place : Place)
    (v : Value) : R.Rel (w.run r root v) (w.runAt r' root place v) := by
  match w with
  | .check c =>
    rw [run, runAt]
    exact alike.check place c v
  | .nested =>
    rw [run, runAt]
    exact alike.nested place v
  | .all ws =>
    rw [run, runAt]
    exact runAllAt_related alike ws place v
  | .any ws =>
    rw [run, runAt]
    exact runAnyAt_related alike ws (.ok ()) place v
  | .items inner =>
    rw [run, runAt]
    generalize v.indirect.view = view
    cases view with
    | seq elements =>
      have alongside : List.Forall₂ Eq elements.zipIdx elements.zipIdx :=
        List.forall₂_same.mpr fun _ _ => rfl
      refine runEach_related R ?_ ?_ alongside
      · intro element _ same
        subst same
        exact runAt_related alike inner _ element.1
      · intro element _ same
        rw [same]
    | _ => exact R.pure _
  | .parts part inner =>
    rw [run, runAt]
    generalize v.indirect.view = view
    cases view with
    | map entries =>
      refine runEach_related R ?_ ?_ (forall₂_zipIdx_left entries 0)
      · intro _ entry same
        subst same
        exact runAt_related alike inner _ _
      · intro _ entry same
        rw [same]
    | _ => exact R.pure _
  | .not inner =>
    rw [run, runAt]
    refine R.bind (runAt_related alike inner place v) fun outcome => ?_
    cases outcome <;> exact R.pure _

theorem runAllAt_related (alike : RunsAlike R r r' root) (ws : List Validator) (place : Place)
    (v : Value) : R.Rel (runAll r root ws v) (runAllAt r' root ws place v) := by
  match ws with
  | [] =>
    rw [runAll, runAllAt]
    exact R.pure _
  | w :: ws =>
    rw [runAll, runAllAt]
    refine R.bind (runAt_related alike w place v) fun outcome => ?_
    cases outcome with
    | ok _ => exact runAllAt_related alike ws place v
    | error e => exact R.pure _

theorem runAnyAt_related (alike : RunsAlike R r r' root) (ws : List Validator) (soFar : Outcome)
    (place : Place) (v : Value) :
    R.Rel (runAny r root ws soFar v) (runAnyAt r' root ws soFar place v) := by
  match ws with
  | [] =>
    rw [runAny, runAnyAt]
    exact R.pure _
  | w :: ws =>
    rw [runAny, runAnyAt]
    refine R.bind (runAt_related alike w place v) fun outcome => ?_
    cases outcome with
    | ok _ => exact R.pure _
    | error e => exact runAnyAt_related alike ws (.error e) place v

end

end related

/-! ## Leaves that look at nested structures -/

mutual

/-- The number of leaves that look at the fields of nested structures themselves. -/
def leaves : Validator → Nat
  | check c => if c.descends then 1 else 0
  | nested => 1
  | all vs => allLeaves vs
  | any vs => allLeaves vs
  | items inner => inner.leaves
  | parts _ inner => inner.leaves
  | not inner => inner.leaves

/-- The number of such leaves in validators. -/
def allLeaves : List Validator → Nat
  | [] => 0
  | v :: vs => v.leaves + allLeaves vs

end

mutual

/-- Nothing in the validator is negated. -/
def positive : Validator → Bool
  | check _ => true
  | nested => true
  | all vs => allPositive vs
  | any vs => allPositive vs
  | items inner => inner.positive
  | parts _ inner => inner.positive
  | not _ => false

/-- Nothing in the validators is negated. -/
def allPositive : List Validator → Bool
  | [] => true
  | v :: vs => v.positive && allPositive vs

end

theorem allPositive_iff {vs : List Validator} : allPositive vs ↔ ∀ v ∈ vs, v.positive := by
  induction vs with
  | nil => simp [allPositive]
  | cons v vs ih => simp [allPositive, ih]

mutual

/-- A validator in which nothing is negated says that it descends if and only if one of its
leaves does. -/
theorem descends_iff_leaves {v : Validator} (positive : v.positive) :
    v.descends ↔ 0 < v.leaves := by
  match v with
  | .check c =>
    rw [descends, leaves]
    split
    · next descends => simp [descends]
    · next stays => simp [stays]
  | .nested => simp [descends, leaves]
  | .all vs | .any vs =>
    rw [Validator.positive] at positive
    rw [descends, leaves]
    exact someDescends_iff_leaves positive
  | .items inner | .parts _ inner =>
    rw [Validator.positive] at positive
    rw [descends, leaves]
    exact descends_iff_leaves positive
  | .not inner =>
    rw [Validator.positive] at positive
    cases positive

theorem someDescends_iff_leaves {vs : List Validator} (positive : allPositive vs) :
    someDescends vs ↔ 0 < allLeaves vs := by
  match vs with
  | [] => simp [someDescends, allLeaves]
  | v :: vs =>
    rw [allPositive, Bool.and_eq_true] at positive
    have first := descends_iff_leaves positive.1
    have others := someDescends_iff_leaves positive.2
    rw [someDescends, allLeaves, Bool.or_eq_true, first, others]
    omega

end

end Validator

end RecordRules

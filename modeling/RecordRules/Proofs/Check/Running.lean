import Mathlib.Data.List.Forall2
import RecordRules.Check.Validator

/-!
# Running validators side by side

A validator can be run with different effects and on different values.  Two runs are
related if the values are, part by part, and if single checks and validations of nested
structures are related: everything else is the same on both sides.
-/

namespace RecordRules

/-- A relation between computations with different effects that results and sequences of
steps respect. -/
structure MonadRelation (m n : Type → Type) [Monad m] [Monad n] where
  Rel {α : Type} : m α → n α → Prop
  pure {α : Type} (a : α) : Rel (Pure.pure a : m α) (Pure.pure a : n α)
  bind {α β : Type} {x : m α} {y : n α} {f : α → m β} {g : α → n β} :
    Rel x y → (∀ a, Rel (f a) (g a)) → Rel (x >>= f) (y >>= g)

namespace Validator

/-- Views of the same kind, with related parts. -/
inductive ViewsRelated (rel : Value → Value → Prop) : View → View → Prop
  | seq {items items' : List Value} :
    List.Forall₂ rel items items' → ViewsRelated rel (.seq items) (.seq items')
  | map {entries entries' : List (Value × Value)} :
    List.Forall₂ (fun e e' => keyText e.1 = keyText e'.1 ∧
      ∀ part : MapPart, rel (part.target e) (part.target e')) entries entries' →
    ViewsRelated rel (.map entries) (.map entries')
  | other {view view' : View} : view.kind = view'.kind → view.kind ≠ .seq → view.kind ≠ .map →
    ViewsRelated rel view view'

/-- The parts of related values are related. -/
def PartsRelated (rel : Value → Value → Prop) : Prop :=
  ∀ v v', rel v v' → ViewsRelated rel v.indirect.view v'.indirect.view

mutual

/-- The checks that a validator makes. -/
def checks : Validator → List Check
  | check c => [c]
  | nested => []
  | all vs => allChecks vs
  | any vs => allChecks vs
  | items inner => inner.checks
  | parts _ inner => inner.checks
  | not inner => inner.checks

/-- The checks that validators make. -/
def allChecks : List Validator → List Check
  | [] => []
  | v :: vs => v.checks ++ allChecks vs

end

theorem forall_mem_allChecks_cons {p : Check → Prop} {v : Validator} {vs : List Validator} :
    (∀ c ∈ allChecks (v :: vs), p c) ↔ (∀ c ∈ v.checks, p c) ∧ ∀ c ∈ allChecks vs, p c := by
  rw [allChecks]
  exact List.forall_mem_append

section related

variable {m n : Type → Type} [Monad m] [Monad n] (R : MonadRelation m n)

theorem runEach_related {α β : Type} {both : α → β → Prop} {run : α → m Outcome}
    {run' : β → n Outcome} {locate : α → Failure → Failure} {locate' : β → Failure → Failure}
    (runs : ∀ a b, both a b → R.Rel (run a) (run' b))
    (same : ∀ a b, both a b → locate a = locate' b) {as : List α} {bs : List β}
    (related : List.Forall₂ both as bs) :
    R.Rel (runEach run locate as) (runEach run' locate' bs) := by
  induction related with
  | nil => exact R.pure _
  | cons first rest ih =>
    rw [runEach, runEach]
    refine R.bind (runs _ _ first) fun outcome => ?_
    cases outcome with
    | ok _ => exact ih
    | error e =>
      rw [same _ _ first]
      exact R.pure _

theorem forall₂_zipIdx {α β : Type} {both : α → β → Prop} {as : List α} {bs : List β}
    (related : List.Forall₂ both as bs) (start : Nat) :
    List.Forall₂ (fun a b => both a.1 b.1 ∧ a.2 = b.2) (as.zipIdx start) (bs.zipIdx start) := by
  induction related generalizing start with
  | nil => exact .nil
  | cons first rest ih => exact .cons ⟨first, rfl⟩ (ih (start + 1))

variable {rel : Value → Value → Prop} {r : Runner m} {r' : Runner n} {root root' : Option Value}

mutual

/-- A validator runs alike on related values if its checks do. -/
theorem run_related (parts : PartsRelated rel)
    (nested : ∀ v v', rel v v' → R.Rel (r.nested root v) (r'.nested root' v')) (w : Validator)
    (checks : ∀ c ∈ w.checks, ∀ v v', rel v v' → R.Rel (r.check c root v) (r'.check c root' v'))
    {v v' : Value} (related : rel v v') : R.Rel (w.run r root v) (w.run r' root' v') := by
  match w with
  | .check c =>
    rw [run, run]
    exact checks c List.mem_cons_self v v' related
  | .nested =>
    rw [run, run]
    exact nested v v' related
  | .all ws =>
    rw [run, run]
    exact runAll_related parts nested ws checks related
  | .any ws =>
    rw [run, run]
    exact runAny_related parts nested ws checks related
  | .items inner =>
    rw [run, run]
    have views := parts v v' related
    generalize v.indirect.view = view at views ⊢
    generalize v'.indirect.view = view' at views ⊢
    cases views with
    | seq items =>
      refine runEach_related R (fun a b both => ?_) (fun a b both => ?_) (forall₂_zipIdx items 0)
      · exact run_related parts nested inner checks both.1
      · rw [both.2]
    | map _ => exact R.pure _
    | other kind notSeq notMap =>
      cases view <;> cases view' <;> cases kind <;>
        first | exact R.pure _ | exact absurd rfl notSeq
  | .parts part inner =>
    rw [run, run]
    have views := parts v v' related
    generalize v.indirect.view = view at views ⊢
    generalize v'.indirect.view = view' at views ⊢
    cases views with
    | seq _ => exact R.pure _
    | map entries =>
      refine runEach_related R (fun a b both => ?_) (fun a b both => ?_) entries
      · exact run_related parts nested inner checks (both.2 part)
      · rw [both.1]
    | other kind notSeq notMap =>
      cases view <;> cases view' <;> cases kind <;>
        first | exact R.pure _ | exact absurd rfl notMap
  | .not inner =>
    rw [run, run]
    refine R.bind (run_related parts nested inner checks related) fun outcome => ?_
    cases outcome with
    | ok _ => exact R.pure _
    | error _ => exact R.pure _

theorem runAll_related (parts : PartsRelated rel)
    (nested : ∀ v v', rel v v' → R.Rel (r.nested root v) (r'.nested root' v')) (ws : List Validator)
    (checks : ∀ c ∈ allChecks ws, ∀ v v', rel v v' →
      R.Rel (r.check c root v) (r'.check c root' v'))
    {v v' : Value} (related : rel v v') : R.Rel (runAll r root ws v) (runAll r' root' ws v') := by
  match ws with
  | [] =>
    rw [runAll, runAll]
    exact R.pure _
  | w :: ws =>
    rcases forall_mem_allChecks_cons.mp checks with ⟨firstChecks, otherChecks⟩
    have first := run_related parts nested w firstChecks related
    rw [runAll, runAll]
    refine R.bind first fun outcome => ?_
    cases outcome with
    | ok _ => exact runAll_related parts nested ws otherChecks related
    | error e => exact R.pure _

theorem runAny_related (parts : PartsRelated rel)
    (nested : ∀ v v', rel v v' → R.Rel (r.nested root v) (r'.nested root' v')) (ws : List Validator)
    (checks : ∀ c ∈ allChecks ws, ∀ v v', rel v v' →
      R.Rel (r.check c root v) (r'.check c root' v'))
    {soFar : Outcome} {v v' : Value} (related : rel v v') :
    R.Rel (runAny r root ws soFar v) (runAny r' root' ws soFar v') := by
  match ws with
  | [] =>
    rw [runAny, runAny]
    exact R.pure _
  | w :: ws =>
    rcases forall_mem_allChecks_cons.mp checks with ⟨firstChecks, otherChecks⟩
    have first := run_related parts nested w firstChecks related
    rw [runAny, runAny]
    refine R.bind first fun outcome => ?_
    cases outcome with
    | ok _ => exact R.pure _
    | error e => exact runAny_related parts nested ws otherChecks related

end

end related

end Validator

end RecordRules

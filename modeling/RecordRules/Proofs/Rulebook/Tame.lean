import RecordRules.Proofs.Check.Running
import RecordRules.Proofs.Check.Tame
import RecordRules.Proofs.Rulebook.Inheriting

/-!
# Tame rulebooks

A validator is tame if the checks that it makes are.  If the functions and symbols of a
rulebook give tame validators, so do all rules.  The standard functions do.
-/

namespace RecordRules

/-- All checks that the validator makes are tame. -/
def Validator.Tame (w : Validator) : Prop :=
  ∀ c ∈ w.checks, c.Tame

/-- The argument is a tame validator, if it is a validator. -/
def Argument.Tame (arg : Argument) : Prop :=
  ∀ w, arg.validator? = some w → w.Tame

/-- What the function makes of tame arguments is tame. -/
def Function.Tame (f : Function) : Prop :=
  ∀ args w, (∀ arg ∈ args, arg.Tame) → f.build args = .ok w → w.Tame

/-- All names stand for what is tame. -/
structure Rulebook.Tame (book : Rulebook) : Prop where
  functions : ∀ name f, book.functions.get? name = some f → f.Tame
  symbols : ∀ name arg, book.symbols.get? name = some arg → arg.Tame

theorem tame_check {c : Check} (stock : ∀ custom, c ≠ .custom custom) :
    (Validator.check c).Tame := by
  intro c' mem
  rw [List.mem_singleton.mp mem]
  exact Check.tame_of_stock stock

theorem tame_nested : Validator.nested.Tame := by
  intro _ mem
  cases mem

theorem tame_allChecks {ws : List Validator} (tame : ∀ w ∈ ws, w.Tame) :
    ∀ c ∈ Validator.allChecks ws, c.Tame := by
  induction ws with
  | nil =>
    intro c mem
    cases mem
  | cons w ws ih =>
    rcases List.forall_mem_cons.mp tame with ⟨first, others⟩
    exact Validator.forall_mem_allChecks_cons.mpr ⟨first, ih others⟩

theorem combines_tame : Combines Validator.Tame where
  all ws tame c mem := by
    rw [Validator.checks] at mem
    exact tame_allChecks tame c mem
  any ws tame c mem := by
    rw [Validator.checks] at mem
    exact tame_allChecks tame c mem

/-- Whatever a tame rulebook compiles is tame. -/
theorem tame_compile {book : Rulebook} (tame : book.Tame) {serial : Nat} {text : String}
    {handle : Handle} (compiled : book.compile serial text = .ok handle) :
    handle.validator.Tame :=
  inherits_compile combines_tame
    (fun _ _ name _ => ⟨tame.functions name, tame.symbols name⟩) compiled

/-- The standard functions make no checks of other people's making. -/
theorem Function.tame_standard : ∀ f ∈ standard, f.Tame :=
  inherits_standard (fun _ => tame_check) tame_nested combines_tame
    ⟨fun _ tame => tame, fun _ _ tame => tame⟩

end RecordRules

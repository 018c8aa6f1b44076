import Mathlib.Data.List.Forall2
import RecordRules.Proofs.Except
import RecordRules.Proofs.Rulebook.Meaning

/-!
# Compilation

Compilation drives a builder through a rule and collects handles in contexts.  Here the
detour is taken back: what is collected are the validators that the parts of the rule
stand for, and where nothing is collected the error is that of the first place of the
rule that cannot be built.

A handle carries the number of the compilation that made it.  Functions do not see that
number, so none of this depends on it.
-/

namespace RecordRules

open Validator

/-! ## Results with a value or an error -/

/-- A result stands for a value or, without one, for an error. -/
inductive Agrees {α β : Type} (rel : α → β → Prop) :
    Except BuildError α → Option β → Option BuildError → Prop
  | ok {a : α} {b : β} : rel a b → Agrees rel (.ok a) (some b) none
  | error {e : BuildError} : Agrees rel (.error e) none (some e)

section agreement

variable {α β γ δ : Type} {rel : α → β → Prop} {rel' : γ → δ → Prop}

theorem Agrees.bind {x : Except BuildError α} {value : Option β} {err err' : Option BuildError}
    {f : α → Except BuildError γ} {g : β → Option δ} (first : Agrees rel x value err)
    (second : ∀ a b, rel a b → Agrees rel' (f a) (g b) err') :
    Agrees rel' (x >>= f) (value >>= g) (err.or err') := by
  cases first with
  | ok related => exact second _ _ related
  | error => exact .error

/-- What follows cannot fail. -/
theorem Agrees.andThen {x : Except BuildError α} {value : Option β} {err : Option BuildError}
    {f : α → Except BuildError γ} {g : β → Option δ} (first : Agrees rel x value err)
    (second : ∀ a b, rel a b → Agrees rel' (f a) (g b) none) :
    Agrees rel' (x >>= f) (value >>= g) err := by
  cases first with
  | ok related => exact second _ _ related
  | error => exact .error

end agreement

/-! ## Names -/

theorem build_congr (f : Function) {args args' : List Argument}
    (same : args.map Argument.anonymous = args'.map Argument.anonymous) :
    f.build args = f.build args' := by
  rw [← f.build_anonymous args, same, f.build_anonymous]

theorem agrees_resolve (book : Rulebook) (serial : Nat) (name : String) :
    Agrees (fun a b => a.anonymous = b.anonymous) (book.resolve serial name)
      (book.argumentNamed name).toOption (Site.error? book (.argument name)) := by
  rw [Site.error?, Rulebook.resolve, Rulebook.argumentNamed]
  cases book.functions.get? name with
  | some f =>
    dsimp only
    cases f.build [] with
    | error e => exact .error
    | ok v => exact .ok rfl
  | none =>
    cases book.symbols.get? name with
    | none => exact .error
    | some value => exact .ok rfl

theorem agrees_ident (book : Rulebook) (serial : Nat) (handles : List Handle) (name : String) :
    Agrees (fun a v => a.map Handle.validator = handles.map Handle.validator ++ [v])
      ((book.builder serial).ident handles name) (book.named name).toOption
      (Site.error? book (.name name)) := by
  simp only [Rulebook.builder, Rulebook.resolve, Rulebook.named, Site.error?]
  cases book.functions.get? name with
  | some f =>
    dsimp only
    cases f.build [] with
    | error e => exact .error
    | ok v => exact .ok List.map_append
  | none =>
    cases book.symbols.get? name with
    | none => exact .error
    | some value =>
      cases value with
      | rule handle => exact .ok List.map_append
      | int _ | float _ | str _ | bool _ => exact .error

/-- The validators of a context, as one. -/
theorem conj_validator (serial : Nat) (handles : List Handle) :
    (Rulebook.conj serial handles).validator = .conj (handles.map Handle.validator) := by
  match handles with
  | [] => rfl
  | [handle] => rfl
  | _ :: _ :: _ => rfl

/-! ## Arguments -/

/-- An argument as the builder receives it, its rules made and its name still a name. -/
inductive Lowered (book : Rulebook) : ArgExpr → Arg (List Handle) → Prop
  | integer (value : Int64) : Lowered book (.integer value) (.integer value)
  | float (value : Double) : Lowered book (.float value) (.float value)
  | string (value : String) : Lowered book (.string value) (.string value)
  | boolean (value : Bool) : Lowered book (.boolean value) (.boolean value)
  | ident (name : String) : Lowered book (.expr (.ident name)) (.ident name)
  | rule {rule : Expr} {handles : List Handle} (not_ident : ∀ name, rule ≠ .ident name)
    (built : rule.validator? book = some (.conj (handles.map Handle.validator))) :
    Lowered book (.expr rule) (.context handles)

theorem argument?_rule {book : Rulebook} {rule : Expr} (not_ident : ∀ name, rule ≠ .ident name) :
    (ArgExpr.expr rule).argument? book = (rule.validator? book).map fun v => .rule ⟨0, v⟩ := by
  cases rule with
  | ident name => exact absurd rfl (not_ident name)
  | and _ | or _ | call _ _ | eq _ _ => rw [ArgExpr.argument?]; simp

/-- The error of an argument that is a name, as it is settled after the others. -/
def waitingError (book : Rulebook) (args : List ArgExpr) : Option BuildError :=
  (waiting args).findSome? (Site.error? book)

theorem waitingError_cons (book : Rulebook) (arg : ArgExpr) (args : List ArgExpr) :
    waitingError book (arg :: args) = (waitingError book [arg]).or (waitingError book args) := by
  simp only [waitingError, ← List.findSome?_append]
  congr 1
  cases arg with
  | integer _ | float _ | string _ | boolean _ => rfl
  | expr rule => cases rule <;> rfl

theorem waitingError_rule {book : Rulebook} {rule : Expr} (not_ident : ∀ name, rule ≠ .ident name) :
    waitingError book [.expr rule] = none := by
  cases rule with
  | ident name => exact absurd rfl (not_ident name)
  | and _ | or _ | call _ _ | eq _ _ => rfl

theorem agrees_lower {book : Rulebook} (serial : Nat) {arg : ArgExpr} {lowered : Arg (List Handle)}
    (is : Lowered book arg lowered) :
    Agrees (fun a b => a.anonymous = b.anonymous) (book.lower serial lowered) (arg.argument? book)
      (waitingError book [arg]) := by
  cases is with
  | integer _ | float _ | string _ | boolean _ => exact .ok rfl
  | ident name =>
    rw [Rulebook.lower, ArgExpr.argument?, waitingError, waiting, waiting, List.findSome?_singleton]
    exact agrees_resolve book serial name
  | rule not_ident built =>
    rw [Rulebook.lower, argument?_rule not_ident, built, waitingError_rule not_ident]
    exact .ok (by rw [Argument.anonymous, Argument.anonymous, conj_validator])

theorem agrees_lower_all {book : Rulebook} (serial : Nat) {args : List ArgExpr}
    {lowered : List (Arg (List Handle))} (are : List.Forall₂ (Lowered book) args lowered) :
    Agrees (fun as bs => as.map Argument.anonymous = bs.map Argument.anonymous)
      (lowered.mapM (book.lower serial)) (arguments? book args) (waitingError book args) := by
  induction are with
  | nil => exact .ok rfl
  | cons first rest ih =>
    rw [List.mapM_cons, arguments?, waitingError_cons]
    refine (agrees_lower serial first).bind fun a b same => ?_
    refine ih.andThen fun as bs sameRest => .ok ?_
    rw [List.map_cons, List.map_cons, same, sameRest]

/-- Arguments as the builder receives them, or the error of the first rule among them that
cannot be built; without it, the function cannot have its arguments. -/
inductive Readied {α : Type} (is : α → Prop) (absent : Prop) :
    Except BuildError α → Option BuildError → Prop
  | ok {a : α} : is a → Readied is absent (.ok a) none
  | error {e : BuildError} : absent → Readied is absent (.error e) (some e)

/-! ## Rules, by induction -/

/-- The handles of a context with further validators. -/
def Extends {α : Type} (handles : List Handle) (validators : α → List Validator)
    (context : List Handle)
    (more : α) : Prop :=
  context.map Handle.validator = handles.map Handle.validator ++ validators more

theorem agrees_call {book : Rulebook} (serial : Nat) (handles : List Handle) (name : String)
    {args : List ArgExpr} {result : Except BuildError (List (Arg (List Handle)))}
    (readied : Readied (List.Forall₂ (Lowered book) args) (arguments? book args = none) result
      ((argSites true args).findSome? (Site.error? book))) :
    Agrees (Extends handles fun v => [v]) (result >>= (book.builder serial).call handles name)
      ((Expr.call name args).validator? book) ((Expr.call name args).firstError book true) := by
  rw [Expr.validator?, Expr.firstError, Expr.sites, if_pos rfl, List.append_assoc,
    List.findSome?_append, List.cons_append, List.findSome?_cons, List.findSome?_append]
  generalize (argSites true args).findSome? (Site.error? book) = err at readied
  cases readied with
  | error absent =>
    cases book.functions.get? name with
    | none => exact .error
    | some f => rw [absent]; exact .error
  | @ok lowered are =>
    have settled := agrees_lower_all serial are
    rw [waitingError] at settled
    simp only [bind, Except.bind, Rulebook.builder, Site.error?, List.findSome?_singleton]
    cases book.functions.get? name with
    | none => exact .error
    | some f =>
      dsimp only
      generalize (waiting args).findSome? (Site.error? book) = err at settled ⊢
      generalize lowered.mapM (book.lower serial) = as at settled ⊢
      generalize arguments? book args = bs at settled ⊢
      cases settled with
      | error => exact .error
      | @ok as bs same =>
        dsimp only [Option.bind_some]
        rw [build_congr f same]
        cases f.build bs with
        | error e => exact .error
        | ok v => exact .ok List.map_append

/-- The same places as those of a call with one argument. -/
theorem firstError_eq (book : Rulebook) (name : String) (value : ArgExpr) :
    (Expr.eq name value).firstError book true = (Expr.call name [value]).firstError book true := by
  rw [Expr.firstError, Expr.firstError, Expr.sites, Expr.sites, argSites, argSites, List.append_nil]

/-- A comparison is a call with one argument. -/
theorem validator?_eq (book : Rulebook) (name : String) (value : ArgExpr) :
    (Expr.eq name value).validator? book = (Expr.call name [value]).validator? book := by
  rw [Expr.validator?, Expr.validator?, arguments?, arguments?]
  cases book.functions.get? name with
  | none => rfl
  | some f => cases value.argument? book <;> rfl

theorem replay_eq (book : Rulebook) (serial : Nat) (handles : List Handle) (name : String)
    (value : ArgExpr) : (Expr.eq name value).replay (book.builder serial) handles =
      ArgExpr.lowerAll (book.builder serial) [value] >>=
        (book.builder serial).call handles name := by
  rw [Expr.replay, ArgExpr.lowerAll, ArgExpr.lowerAll]
  cases value.lower (book.builder serial) <;> rfl

theorem readied_rule {book : Rulebook} {serial : Nat} {rule : Expr}
    (not_ident : ∀ name, rule ≠ .ident name)
    (agrees : Agrees (Extends [] fun v => [v]) (rule.replay (book.builder serial) [])
      (rule.validator? book) (rule.firstError book true)) :
    Readied (Lowered book (.expr rule)) ((ArgExpr.expr rule).argument? book = none)
      ((ArgExpr.expr rule).lower (book.builder serial))
      (((ArgExpr.expr rule).sites true).findSome? (Site.error? book)) := by
  have lower : (ArgExpr.expr rule).lower (book.builder serial) =
      (rule.replay (book.builder serial) []).bind fun context => .ok (.context context) := by
    cases rule with
    | ident name => exact absurd rfl (not_ident name)
    | and _ | or _ | call _ _ | eq _ _ => rw [ArgExpr.lower]; exacts [rfl, not_ident]
  have sites : (ArgExpr.expr rule).sites true = rule.sites true := by
    cases rule with
    | ident name => exact absurd rfl (not_ident name)
    | and _ | or _ | call _ _ | eq _ _ => rw [ArgExpr.sites]; exact not_ident
  rw [lower, sites, argument?_rule not_ident]
  change Readied _ _ _ (rule.firstError book true)
  generalize validator : rule.validator? book = value at agrees ⊢
  generalize rule.replay (book.builder serial) [] = result at agrees ⊢
  generalize rule.firstError book true = err at agrees ⊢
  cases agrees with
  | error => exact .error rfl
  | @ok context v extend =>
    refine .ok (.rule not_ident ?_)
    rw [validator, show context.map Handle.validator = [v] from extend]
    rfl

theorem readied_nil (book : Rulebook) (serial : Nat) :
    Readied (List.Forall₂ (Lowered book) []) (arguments? book [] = none)
      (ArgExpr.lowerAll (book.builder serial) [])
      ((argSites true []).findSome? (Site.error? book)) := by
  rw [ArgExpr.lowerAll, argSites]
  exact .ok .nil

theorem readied_cons {book : Rulebook} {serial : Nat} {arg : ArgExpr} {args : List ArgExpr}
    (first : Readied (Lowered book arg) (arg.argument? book = none)
      (arg.lower (book.builder serial)) ((arg.sites true).findSome? (Site.error? book)))
    (rest : Readied (List.Forall₂ (Lowered book) args) (arguments? book args = none)
      (ArgExpr.lowerAll (book.builder serial) args)
      ((argSites true args).findSome? (Site.error? book))) :
    Readied (List.Forall₂ (Lowered book) (arg :: args)) (arguments? book (arg :: args) = none)
      (ArgExpr.lowerAll (book.builder serial) (arg :: args))
      ((argSites true (arg :: args)).findSome? (Site.error? book)) := by
  rw [ArgExpr.lowerAll, argSites, List.findSome?_append, arguments?]
  generalize (arg.sites true).findSome? (Site.error? book) = err at first ⊢
  generalize (argSites true args).findSome? (Site.error? book) = errs at rest ⊢
  generalize arg.lower (book.builder serial) = lowered at first ⊢
  generalize ArgExpr.lowerAll (book.builder serial) args = others at rest ⊢
  cases first with
  | error absent =>
    refine .error ?_
    rw [absent]
    rfl
  | ok is =>
    cases rest with
    | error absent =>
      refine .error ?_
      rw [absent]
      cases arg.argument? book <;> rfl
    | ok are => exact .ok (.cons is are)

mutual

theorem agrees_replay (book : Rulebook) (serial : Nat) (rule : Expr) (handles : List Handle) :
    Agrees (Extends handles fun v => [v]) (rule.replay (book.builder serial) handles)
      (rule.validator? book) (rule.firstError book true) := by
  match rule with
  | .and operands =>
    have operands := agrees_replayAll book serial operands []
    rw [Expr.replay, Expr.validator?, Expr.firstError, Expr.sites, Option.map_eq_bind]
    refine operands.andThen fun sub vs extend => .ok ?_
    rw [Extends, List.map_append, List.map_singleton, conj_validator, extend]
    rfl
  | .or operands =>
    have operands := agrees_replayAll book serial operands []
    rw [Expr.replay, Expr.validator?, Expr.firstError, Expr.sites, Option.map_eq_bind]
    refine operands.andThen fun sub vs extend => .ok ?_
    rw [Extends, List.map_append, List.map_singleton, extend]
    rfl
  | .ident name =>
    rw [Expr.replay, Expr.validator?, Expr.firstError, Expr.sites, List.findSome?_singleton]
    exact agrees_ident book serial handles name
  | .call name args =>
    rw [Expr.replay]
    exact agrees_call serial handles name (readied_lowerAll book serial args)
  | .eq name value =>
    have readied := readied_cons (readied_lower book serial value) (readied_nil book serial)
    rw [validator?_eq, firstError_eq, replay_eq]
    exact agrees_call serial handles name readied

theorem agrees_replayAll (book : Rulebook) (serial : Nat) (rules : List Expr)
    (handles : List Handle) :
    Agrees (Extends handles id) (Expr.replayAll (book.builder serial) handles rules)
      (validators? book rules) ((allSites true rules).findSome? (Site.error? book)) := by
  match rules with
  | [] =>
    rw [Expr.replayAll, validators?, allSites]
    exact .ok (List.append_nil _).symm
  | rule :: rules =>
    rw [Expr.replayAll, validators?, allSites, List.findSome?_append]
    refine (agrees_replay book serial rule handles).bind fun context v extend => ?_
    have others := agrees_replayAll book serial rules context
    generalize (allSites true rules).findSome? (Site.error? book) = err at others ⊢
    generalize Expr.replayAll (book.builder serial) context rules = result at others ⊢
    generalize validators? book rules = value at others ⊢
    cases others with
    | error => exact .error
    | @ok final vs further =>
      refine .ok ?_
      rw [Extends] at extend further ⊢
      rw [further, extend, List.append_assoc]
      rfl

theorem readied_lower (book : Rulebook) (serial : Nat) (arg : ArgExpr) :
    Readied (Lowered book arg) (arg.argument? book = none) (arg.lower (book.builder serial))
      ((arg.sites true).findSome? (Site.error? book)) := by
  match arg with
  | .integer value => exact .ok (.integer value)
  | .float value => exact .ok (.float value)
  | .string value => exact .ok (.string value)
  | .boolean value => exact .ok (.boolean value)
  | .expr (.ident name) => exact .ok (.ident name)
  | .expr (.and operands) =>
    exact readied_rule (by simp) (agrees_replay book serial (.and operands) [])
  | .expr (.or operands) =>
    exact readied_rule (by simp) (agrees_replay book serial (.or operands) [])
  | .expr (.call name args) =>
    exact readied_rule (by simp) (agrees_replay book serial (.call name args) [])
  | .expr (.eq name value) =>
    exact readied_rule (by simp) (agrees_replay book serial (.eq name value) [])

theorem readied_lowerAll (book : Rulebook) (serial : Nat) (args : List ArgExpr) :
    Readied (List.Forall₂ (Lowered book) args) (arguments? book args = none)
      (ArgExpr.lowerAll (book.builder serial) args)
      ((argSites true args).findSome? (Site.error? book)) := by
  match args with
  | [] => exact readied_nil book serial
  | arg :: args =>
    have first := readied_lower book serial arg
    have others := readied_lowerAll book serial args
    exact readied_cons first others

end

/-- Compilation finds the validator that a rule stands for, or the error of the first place
that cannot be built. -/
theorem agrees_compileExpr (book : Rulebook) (serial : Nat) (rule : Expr) :
    Agrees (fun handle v => handle.validator = v) (book.compileExpr serial rule)
      (rule.validator? book) (rule.firstError book true) := by
  have agrees := agrees_replay book serial rule []
  rw [Rulebook.compileExpr, show (book.builder serial).build rule =
    rule.replay (book.builder serial) [] from rfl]
  generalize rule.replay (book.builder serial) [] = result at agrees ⊢
  generalize rule.validator? book = value at agrees ⊢
  generalize rule.firstError book true = err at agrees ⊢
  cases agrees with
  | error => exact .error
  | @ok context v extend =>
    have single : context.map Handle.validator = [v] := extend
    refine .ok ?_
    rw [conj_validator, single]
    rfl

end RecordRules

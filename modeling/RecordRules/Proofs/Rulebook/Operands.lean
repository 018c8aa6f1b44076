import RecordRules.Proofs.Except
import RecordRules.Proofs.Rule.Calling
import RecordRules.Rulebook.Basic

/-!
# Compiling a rule from its operands

A rulebook collects the handles of a rule in contexts.  What it collects from one operand does not
depend on what it has collected before, so a rule is compiled to what is put together from its
operands and arguments, compiled one by one.
-/

namespace RecordRules

namespace Rulebook

variable (book : Rulebook) (serial : Nat)

/-- The validator of a call, from the arguments as a builder receives them. -/
def apply (name : String) (args : List (Arg (List Handle))) : Except BuildError Handle :=
  match book.functions.get? name with
  | none => .error (.unknown name)
  | some f => do
    let args ← args.mapM (book.lower serial)
    return ⟨serial, ← f.build args⟩

/-! ## What a context collects -/

theorem replay_and (operands : List Expr) (handles : List Handle) :
    (Expr.and operands).replay (book.builder serial) handles =
      (Expr.replayAll (book.builder serial) [] operands).map fun sub =>
        handles ++ [conj serial sub] := by
  rw [Expr.replay]
  change (Expr.replayAll (book.builder serial) [] operands).bind _ = _
  cases Expr.replayAll (book.builder serial) [] operands <;> rfl

theorem replay_or (operands : List Expr) (handles : List Handle) :
    (Expr.or operands).replay (book.builder serial) handles =
      (Expr.replayAll (book.builder serial) [] operands).map fun sub =>
        handles ++ [⟨serial, .any (sub.map Handle.validator)⟩] := by
  rw [Expr.replay]
  change (Expr.replayAll (book.builder serial) [] operands).bind _ = _
  cases Expr.replayAll (book.builder serial) [] operands <;> rfl

theorem call_builder (name : String) (args : List (Arg (List Handle))) (handles : List Handle) :
    (book.builder serial).call handles name args =
      (book.apply serial name args).map fun handle => handles ++ [handle] := by
  rw [apply]
  dsimp only [builder]
  cases book.functions.get? name with
  | none => rfl
  | some f =>
    dsimp only
    cases args.mapM (book.lower serial) with
    | error e => rfl
    | ok args =>
      change (f.build args >>= _) = Except.map _ (f.build args >>= _)
      cases f.build args <;> rfl

theorem replay_call (name : String) (args : List ArgExpr) (handles : List Handle) :
    (Expr.call name args).replay (book.builder serial) handles =
      ((ArgExpr.lowerAll (book.builder serial) args).bind (book.apply serial name)).map
        fun handle => handles ++ [handle] := by
  rw [Expr.replay]
  cases ArgExpr.lowerAll (book.builder serial) args with
  | error e => rfl
  | ok args => exact call_builder book serial name args handles

theorem replay_eq_call (name : String) (value : ArgExpr) (handles : List Handle) :
    (Expr.eq name value).replay (book.builder serial) handles =
      (Expr.call name [value]).replay (book.builder serial) handles := by
  rw [Expr.replay, Expr.replay, ArgExpr.lowerAll, ArgExpr.lowerAll]
  cases value.lower (book.builder serial) <;> rfl

/-- A rule adds the handle that it is compiled to, whatever has been collected before. -/
theorem replay_eq_compileExpr (rule : Expr) (handles : List Handle) :
    rule.replay (book.builder serial) handles =
      (book.compileExpr serial rule).map fun handle => handles ++ [handle] := by
  change _ = Except.map _ ((rule.replay (book.builder serial) []).map (conj serial))
  cases rule with
  | and operands =>
    rw [replay_and, replay_and]
    cases Expr.replayAll (book.builder serial) [] operands <;> rfl
  | or operands =>
    rw [replay_or, replay_or]
    cases Expr.replayAll (book.builder serial) [] operands <;> rfl
  | ident name =>
    simp only [Expr.replay, builder]
    cases book.resolve serial name with
    | error e => rfl
    | ok arg => cases arg <;> rfl
  | call name args =>
    rw [replay_call, replay_call]
    cases (ArgExpr.lowerAll (book.builder serial) args).bind (book.apply serial name) <;> rfl
  | eq name value =>
    rw [replay_eq_call, replay_eq_call, replay_call, replay_call]
    cases (ArgExpr.lowerAll (book.builder serial) [value]).bind (book.apply serial name) <;> rfl

/-- So do several rules, one after the other. -/
theorem replayAll_eq_mapM (rules : List Expr) (handles : List Handle) :
    Expr.replayAll (book.builder serial) handles rules =
      (rules.mapM (book.compileExpr serial)).map fun more => handles ++ more := by
  induction rules generalizing handles with
  | nil => simp [Expr.replayAll, Except.map, pure, Except.pure]
  | cons rule rules ih =>
    rw [Expr.replayAll, List.mapM_cons, replay_eq_compileExpr]
    cases book.compileExpr serial rule with
    | error e => rfl
    | ok handle =>
      change Expr.replayAll (book.builder serial) (handles ++ [handle]) rules =
        Except.map _ (rules.mapM (book.compileExpr serial) >>= _)
      rw [ih]
      cases rules.mapM (book.compileExpr serial) with
      | error e => rfl
      | ok more => exact congrArg Except.ok (List.append_assoc handles [handle] more)

/-! ## What a rule is compiled to -/

theorem compileExpr_of_replay {rule : Expr} {x : Except BuildError Handle}
    (adds : rule.replay (book.builder serial) [] = x.map fun handle => [handle]) :
    book.compileExpr serial rule = x := by
  change (rule.replay (book.builder serial) []).map (conj serial) = x
  rw [adds]
  cases x <;> rfl

theorem compileExpr_and (operands : List Expr) :
    book.compileExpr serial (.and operands) =
      (operands.mapM (book.compileExpr serial)).map (conj serial) := by
  apply compileExpr_of_replay
  rw [replay_and, replayAll_eq_mapM]
  cases operands.mapM (book.compileExpr serial) <;> rfl

theorem compileExpr_or (operands : List Expr) :
    book.compileExpr serial (.or operands) =
      (operands.mapM (book.compileExpr serial)).map fun handles =>
        ⟨serial, .any (handles.map Handle.validator)⟩ := by
  apply compileExpr_of_replay
  rw [replay_or, replayAll_eq_mapM]
  cases operands.mapM (book.compileExpr serial) <;> rfl

theorem compileExpr_call (name : String) (args : List ArgExpr) :
    book.compileExpr serial (.call name args) =
      (ArgExpr.lowerAll (book.builder serial) args).bind (book.apply serial name) := by
  apply compileExpr_of_replay
  rw [replay_call]
  rfl

theorem compileExpr_eq (name : String) (value : ArgExpr) :
    book.compileExpr serial (.eq name value) = book.compileExpr serial (.call name [value]) := by
  rw [compileExpr, compileExpr, Builder.build, Builder.build]
  exact congrArg (Except.map (conj serial)) (replay_eq_call book serial name value [])

/-- An argument that is a rule and no name is received as a context with one handle. -/
theorem lower_eq_compileExpr {rule : Expr} (other : ∀ name, rule ≠ .ident name) :
    (ArgExpr.expr rule).lower (book.builder serial) =
      (book.compileExpr serial rule).map fun handle => .context [handle] := by
  rw [lower_rule _ other]
  change (rule.replay (book.builder serial) []).bind _ = _
  rw [replay_eq_compileExpr]
  cases book.compileExpr serial rule <;> rfl

/-! ## Going together -/

section together

variable {book serial} {rel : Arg (List Handle) → Arg (List Handle) → Prop}

theorem lowerAll_nil_together : Together (List.Forall₂ rel)
    (ArgExpr.lowerAll (book.builder serial) []) (ArgExpr.lowerAll (book.builder serial) []) := by
  rw [ArgExpr.lowerAll]
  exact .ok .nil

theorem lowerAll_cons_together {arg arg' : ArgExpr} {args args' : List ArgExpr}
    (first : Together rel (arg.lower (book.builder serial)) (arg'.lower (book.builder serial)))
    (rest : Together (List.Forall₂ rel) (ArgExpr.lowerAll (book.builder serial) args)
      (ArgExpr.lowerAll (book.builder serial) args')) :
    Together (List.Forall₂ rel) (ArgExpr.lowerAll (book.builder serial) (arg :: args))
      (ArgExpr.lowerAll (book.builder serial) (arg' :: args')) := by
  rw [ArgExpr.lowerAll, ArgExpr.lowerAll]
  refine first.bind fun a a' same => ?_
  exact rest.bind fun as as' others => .ok (.cons same others)

/-- Rules that are compiled together are received together, if both or neither are names. -/
theorem lower_rule_together {alike : Handle → Handle → Prop} {rule rule' : Expr}
    (compiled : Together alike (book.compileExpr serial rule) (book.compileExpr serial rule'))
    (ident : ∀ name, rule = .ident name ↔ rule' = .ident name) (same : ∀ arg, rel arg arg)
    (context : ∀ handle handle', alike handle handle' →
      rel (.context [handle]) (.context [handle'])) :
    Together rel ((ArgExpr.expr rule).lower (book.builder serial))
      ((ArgExpr.expr rule').lower (book.builder serial)) := by
  rcases ident_or_other rule with ⟨name, is⟩ | other
  · rw [is, (ident name).mp is]
    exact .refl same _
  · have other' : ∀ name, rule' ≠ .ident name := fun name is => other name ((ident name).mpr is)
    rw [lower_eq_compileExpr book serial other, lower_eq_compileExpr book serial other']
    exact compiled.map context

end together

end Rulebook

end RecordRules

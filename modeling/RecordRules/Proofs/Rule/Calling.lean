import RecordRules.Rule.Builder

/-!
# Comparisons as calls

A builder that does not care for comparisons receives each of them as a call with one argument.
Such a builder builds the same of a rule with all its comparisons written as calls
(`replay_called`).
-/

namespace RecordRules

/-! ## Rules as arguments -/

theorem ident_or_other (rule : Expr) :
    (∃ name, rule = .ident name) ∨ ∀ name, rule ≠ .ident name := by
  cases rule with
  | ident name => exact .inl ⟨name, rfl⟩
  | and _ | or _ | call _ _ | eq _ _ => exact .inr (by simp)

theorem lower_rule {m : Type → Type} {κ : Type} [Monad m] (b : Builder m κ) {rule : Expr}
    (other : ∀ name, rule ≠ .ident name) :
    (ArgExpr.expr rule).lower b = do
      let context ← rule.replay b (← b.newContext)
      return .context context := by
  cases rule with
  | ident name => exact absurd rfl (other name)
  | and _ | or _ | call _ _ | eq _ _ => rw [ArgExpr.lower]; exact other

/-! ## All comparisons written as calls -/

mutual

/-- The rule with all comparisons written as calls. -/
def Expr.called : Expr → Expr
  | .and operands => .and (calledAll operands)
  | .or operands => .or (calledAll operands)
  | .ident name => .ident name
  | .call name args => .call name (calledArgs args)
  | .eq name value => .call name [value.called]

/-- The rules with all comparisons written as calls. -/
def calledAll : List Expr → List Expr
  | [] => []
  | rule :: rules => rule.called :: calledAll rules

/-- The argument with all comparisons written as calls. -/
def ArgExpr.called : ArgExpr → ArgExpr
  | .expr rule => .expr rule.called
  | .integer value => .integer value
  | .float value => .float value
  | .string value => .string value
  | .boolean value => .boolean value

/-- The arguments with all comparisons written as calls. -/
def calledArgs : List ArgExpr → List ArgExpr
  | [] => []
  | arg :: args => arg.called :: calledArgs args

end

theorem called_ne_ident {rule : Expr} (other : ∀ name, rule ≠ .ident name) (name : String) :
    rule.called ≠ .ident name := by
  cases rule with
  | ident name' => exact absurd rfl (other name')
  | and _ | or _ | call _ _ | eq _ _ =>
    rw [Expr.called]
    simp

/-- A builder receives a comparison as a call with one argument. -/
def Builder.Plain {m : Type → Type} {κ : Type} (b : Builder m κ) : Prop :=
  ∀ context name value, b.eq context name value = b.call context name [value]

mutual

theorem replay_called {m : Type → Type} {κ : Type} [Monad m] [LawfulMonad m] {b : Builder m κ}
    (plain : b.Plain) (rule : Expr) (context : κ) :
    rule.called.replay b context = rule.replay b context := by
  match rule with
  | .and operands => simp only [Expr.called, Expr.replay, replayAll_called plain operands]
  | .or operands => simp only [Expr.called, Expr.replay, replayAll_called plain operands]
  | .ident name => rw [Expr.called]
  | .call name args => simp only [Expr.called, Expr.replay, lowerAll_called plain args]
  | .eq name value =>
    simp only [Expr.called, Expr.replay, ArgExpr.lowerAll, lower_called plain value,
      plain context name, bind_assoc, pure_bind]

theorem replayAll_called {m : Type → Type} {κ : Type} [Monad m] [LawfulMonad m] {b : Builder m κ}
    (plain : b.Plain) (rules : List Expr) (context : κ) :
    Expr.replayAll b context (calledAll rules) = Expr.replayAll b context rules := by
  match rules with
  | [] => rw [calledAll]
  | rule :: rules =>
    simp only [calledAll, Expr.replayAll, replay_called plain rule, replayAll_called plain rules]

theorem lower_called {m : Type → Type} {κ : Type} [Monad m] [LawfulMonad m] {b : Builder m κ}
    (plain : b.Plain) (arg : ArgExpr) : arg.called.lower b = arg.lower b := by
  match arg with
  | .expr rule =>
    rw [ArgExpr.called]
    rcases ident_or_other rule with ⟨name, is⟩ | other
    · rw [is, Expr.called]
    · rw [lower_rule b (called_ne_ident other), lower_rule b other]
      simp only [replay_called plain rule]
  | .integer _ | .float _ | .string _ | .boolean _ => rw [ArgExpr.called]

theorem lowerAll_called {m : Type → Type} {κ : Type} [Monad m] [LawfulMonad m] {b : Builder m κ}
    (plain : b.Plain) (args : List ArgExpr) :
    ArgExpr.lowerAll b (calledArgs args) = ArgExpr.lowerAll b args := by
  match args with
  | [] => rw [calledArgs]
  | arg :: args =>
    simp only [calledArgs, ArgExpr.lowerAll, lower_called plain arg, lowerAll_called plain args]

end

end RecordRules

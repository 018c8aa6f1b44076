import RecordRules.Rule.Expr

/-!
# Building from a rule

A rule says how checks are combined, not what `min` or `zero` mean.  A `Builder` gives
the meaning: it opens contexts, which collect whatever is built for one level of the
rule, folds one context into another as a conjunction or a disjunction, and resolves
names and calls.  `Expr.replay` drives a builder through a rule, operands and arguments
from left to right.

Each group of operands and each argument that is a rule gets a context of its own; an
argument that is a bare name is left to the builder.
-/

namespace RecordRules

/-- An argument as a builder receives it. -/
inductive Arg (κ : Type) where
  | integer (value : Int64)
  | float (value : Double)
  | string (value : String)
  | boolean (value : Bool)
  | ident (name : String)
  | context (built : κ)
deriving DecidableEq

/-- The operations that give rules a meaning in contexts `κ`, with effects `m`. -/
structure Builder (m : Type → Type) (κ : Type) where
  /-- An empty context. -/
  newContext : m κ
  /-- Adds all that the second context collected to the first, as a conjunction. -/
  and : κ → κ → m κ
  /-- Adds all that the second context collected to the first, as a disjunction. -/
  or : κ → κ → m κ
  /-- Adds a bare name. -/
  ident : κ → String → m κ
  /-- Adds a call. -/
  call : κ → String → List (Arg κ) → m κ
  /-- Adds a comparison; unless said otherwise, a call with one argument. -/
  eq : κ → String → Arg κ → m κ := fun context name value => call context name [value]

mutual

/-- Adds a rule to a context. -/
def Expr.replay {m : Type → Type} {κ : Type} [Monad m] (b : Builder m κ) (context : κ) :
    Expr → m κ
  | .and operands => do
    let sub ← Expr.replayAll b (← b.newContext) operands
    b.and context sub
  | .or operands => do
    let sub ← Expr.replayAll b (← b.newContext) operands
    b.or context sub
  | .ident name => b.ident context name
  | .call name args => do
    let args ← ArgExpr.lowerAll b args
    b.call context name args
  | .eq name value => do
    let value ← ArgExpr.lower b value
    b.eq context name value

/-- Adds rules to a context, one after the other. -/
def Expr.replayAll {m : Type → Type} {κ : Type} [Monad m] (b : Builder m κ) (context : κ) :
    List Expr → m κ
  | [] => pure context
  | operand :: operands => do
    let context ← Expr.replay b context operand
    Expr.replayAll b context operands

/-- Turns an argument into what a builder receives. -/
def ArgExpr.lower {m : Type → Type} {κ : Type} [Monad m] (b : Builder m κ) :
    ArgExpr → m (Arg κ)
  | .integer value => pure (.integer value)
  | .float value => pure (.float value)
  | .string value => pure (.string value)
  | .boolean value => pure (.boolean value)
  | .expr (.ident name) => pure (.ident name)
  | .expr rule => do
    let context ← Expr.replay b (← b.newContext) rule
    return .context context

/-- Turns arguments into what a builder receives, one after the other. -/
def ArgExpr.lowerAll {m : Type → Type} {κ : Type} [Monad m] (b : Builder m κ) :
    List ArgExpr → m (List (Arg κ))
  | [] => pure []
  | arg :: args => do
    let arg ← ArgExpr.lower b arg
    let args ← ArgExpr.lowerAll b args
    return arg :: args

end

/-- What a builder makes of a rule: the first context, filled. -/
def Builder.build {m : Type → Type} {κ : Type} [Monad m] (b : Builder m κ) (rule : Expr) : m κ := do
  rule.replay b (← b.newContext)

end RecordRules

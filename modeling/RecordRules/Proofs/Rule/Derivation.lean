import RecordRules.Rule.Parse

/-!
# Derivations of rules

The grammar of rules, apart from the parser that reads them.  A derivation is a tree with
one constructor for each production:

```text
rule        := disjunction ending
disjunction := conjunction ( "||" conjunction )*
conjunction := primary ( "&&" primary )*
primary     := "(" disjunction ")" | NAME | NAME "(" [ arg ( "," arg )* ] ")" | NAME "==" operand
arg         := literal | disjunction
operand     := literal | NAME | "(" disjunction ")"
literal     := INTEGER | FLOAT | STRING | BOOLEAN
```

`Disjunction.kinds` is what a derivation spells, and `Disjunction.expr` the rule that it
stands for: a chain of one operand is that operand, and parentheses leave no trace.
`Disjunction.EndsAt` says which tokens do not go on a derivation.
-/

namespace RecordRules.Derivation

/-- A literal. -/
inductive Constant where
  | integer (value : Int64)
  | float (value : Double)
  | string (value : String)
  | boolean (value : Bool)

mutual

/-- A chain of `||`. -/
inductive Disjunction where
  | chain (first : Conjunction) (rest : List Conjunction)

/-- A chain of `&&`. -/
inductive Conjunction where
  | chain (first : Primary) (rest : List Primary)

/-- What the operators combine. -/
inductive Primary where
  | enclosed (inner : Disjunction)
  | name (name : String)
  | call (name : String) (args : List Passed)
  | comparison (name : String) (value : Operand)

/-- An argument of a call. -/
inductive Passed where
  | literal (value : Constant)
  | rule (rule : Disjunction)

/-- The right side of a comparison. -/
inductive Operand where
  | literal (value : Constant)
  | name (name : String)
  | enclosed (inner : Disjunction)

end

/-! ## What a derivation spells -/

/-- The token of a literal. -/
def Constant.kind : Constant → TokenKind
  | integer value => .integer value
  | float value => .float value
  | string value => .string value
  | boolean value => .boolean value

mutual

/-- The tokens of a chain of `||`. -/
def Disjunction.kinds : Disjunction → List TokenKind
  | .chain first rest => first.kinds ++ disjunctKinds rest

/-- The tokens of the further operands of a chain of `||`. -/
def disjunctKinds : List Conjunction → List TokenKind
  | [] => []
  | operand :: rest => .or :: (operand.kinds ++ disjunctKinds rest)

/-- The tokens of a chain of `&&`. -/
def Conjunction.kinds : Conjunction → List TokenKind
  | .chain first rest => first.kinds ++ conjunctKinds rest

/-- The tokens of the further operands of a chain of `&&`. -/
def conjunctKinds : List Primary → List TokenKind
  | [] => []
  | operand :: rest => .and :: (operand.kinds ++ conjunctKinds rest)

/-- The tokens of what the operators combine. -/
def Primary.kinds : Primary → List TokenKind
  | .enclosed inner => .open :: (inner.kinds ++ [.close])
  | .name name => [.ident name]
  | .call name [] => [.ident name, .open, .close]
  | .call name (first :: rest) => .ident name :: .open :: (first.kinds ++ argKinds rest)
  | .comparison name value => .ident name :: .equal :: value.kinds

/-- The tokens of the further arguments of a call, and the closing parenthesis. -/
def argKinds : List Passed → List TokenKind
  | [] => [.close]
  | arg :: rest => .comma :: (arg.kinds ++ argKinds rest)

/-- The tokens of an argument. -/
def Passed.kinds : Passed → List TokenKind
  | .literal value => [value.kind]
  | .rule rule => rule.kinds

/-- The tokens of the right side of a comparison. -/
def Operand.kinds : Operand → List TokenKind
  | .literal value => [value.kind]
  | .name name => [.ident name]
  | .enclosed inner => .open :: (inner.kinds ++ [.close])

end

/-! ## What a derivation stands for -/

/-- The argument that a literal is. -/
def Constant.arg : Constant → ArgExpr
  | integer value => .integer value
  | float value => .float value
  | string value => .string value
  | boolean value => .boolean value

mutual

/-- The rule of a chain of `||`. -/
def Disjunction.expr : Disjunction → Expr
  | .chain first [] => first.expr
  | .chain first (second :: rest) => .or (first.expr :: second.expr :: disjunctExprs rest)

/-- The rules of the further operands of a chain of `||`. -/
def disjunctExprs : List Conjunction → List Expr
  | [] => []
  | operand :: rest => operand.expr :: disjunctExprs rest

/-- The rule of a chain of `&&`. -/
def Conjunction.expr : Conjunction → Expr
  | .chain first [] => first.expr
  | .chain first (second :: rest) => .and (first.expr :: second.expr :: conjunctExprs rest)

/-- The rules of the further operands of a chain of `&&`. -/
def conjunctExprs : List Primary → List Expr
  | [] => []
  | operand :: rest => operand.expr :: conjunctExprs rest

/-- The rule of what the operators combine. -/
def Primary.expr : Primary → Expr
  | .enclosed inner => inner.expr
  | .name name => .ident name
  | .call name args => .call name (argExprs args)
  | .comparison name value => .eq name value.arg

/-- The arguments of a call. -/
def argExprs : List Passed → List ArgExpr
  | [] => []
  | arg :: rest => arg.arg :: argExprs rest

/-- An argument; a literal stays one. -/
def Passed.arg : Passed → ArgExpr
  | .literal value => value.arg
  | .rule rule => .expr rule.expr

/-- The right side of a comparison. -/
def Operand.arg : Operand → ArgExpr
  | .literal value => value.arg
  | .name name => .expr (.ident name)
  | .enclosed inner => .expr inner.expr

end

/-! ## Where a derivation ends -/

/-- A token of this kind does not go on what the operators combine. -/
def Primary.EndsAt : Primary → TokenKind → Prop
  | .name _, k => k ≠ .open ∧ k ≠ .equal
  | _, _ => True

/-- It goes on neither the last of these nor the chain that they are in. -/
def conjunctsEndAt (ds : List Primary) (k : TokenKind) : Prop :=
  k ≠ .and ∧ ∀ d ∈ ds.getLast?, d.EndsAt k

/-- It does not go on a chain of `&&`. -/
def Conjunction.EndsAt : Conjunction → TokenKind → Prop
  | .chain first rest => conjunctsEndAt (first :: rest)

/-- It goes on neither the last of these nor the chain that they are in. -/
def disjunctsEndAt (ds : List Conjunction) (k : TokenKind) : Prop :=
  k ≠ .or ∧ ∀ d ∈ ds.getLast?, d.EndsAt k

/-- It does not go on a chain of `||`. -/
def Disjunction.EndsAt : Disjunction → TokenKind → Prop
  | .chain first rest => disjunctsEndAt (first :: rest)

/-- It does not go on an argument. -/
def Passed.EndsAt : Passed → TokenKind → Prop
  | .literal _, _ => True
  | .rule inner, k => inner.EndsAt k

end RecordRules.Derivation

import RecordRules.Rule.Expr
import RecordRules.Rule.Scan

/-!
# From tokens to expressions

```text
rule    := or ending
or      := and ( "||" and )*
and     := primary ( "&&" primary )*
primary := "(" or ")" | NAME [ "(" [ arg ( "," arg )* ] ")" | "==" operand ]
arg     := literal | or
operand := literal | NAME | "(" or ")"
literal := INTEGER | FLOAT | STRING | BOOLEAN
```

Every parser below takes the tokens still to be read and gives back those it left.
One token decides each step, and the last token, the end of the text, is never taken.
The parsers call one another on a budget, which `Expr.ofTokens` sets to more than the
tokens can use up.
-/

namespace RecordRules

namespace Parse

/-- The token at hand. -/
def current : List Token → Token
  | [] => ⟨.ending, 0⟩
  | t :: _ => t

/-- The tokens after the one at hand. -/
def advance : List Token → List Token
  | [] => []
  | [t] => [t]
  | _ :: ts => ts

/-- The token at hand is not what the grammar needs. -/
def unexpected {α : Type} (expected : Expectation) (ts : List Token) :
    Except SyntaxError (α × List Token) :=
  .error (.unexpectedToken expected (current ts).kind (current ts).position)

/-- Takes a token of a kind. -/
def expect (kind : TokenKind) (expected : Expectation) (ts : List Token) :
    Except SyntaxError (Unit × List Token) :=
  if (current ts).kind = kind then .ok ((), advance ts) else unexpected expected ts

/-- Takes a literal, if one is at hand. -/
def literal (ts : List Token) : Option (ArgExpr × List Token) :=
  match (current ts).kind with
  | .integer value => some (.integer value, advance ts)
  | .float value => some (.float value, advance ts)
  | .string value => some (.string value, advance ts)
  | .boolean value => some (.boolean value, advance ts)
  | _ => none

mutual

/-- A chain of `||`, or its only operand. -/
def disjunction : Nat → List Token → Except SyntaxError (Expr × List Token)
  | 0, ts => unexpected .operand ts
  | budget + 1, ts => do
    let (first, ts) ← conjunction budget ts
    if (current ts).kind = .or then
      let (rest, ts) ← disjuncts budget ts
      return (.or (first :: rest), ts)
    else
      return (first, ts)

/-- The operands that follow the first one of a chain of `||`. -/
def disjuncts : Nat → List Token → Except SyntaxError (List Expr × List Token)
  | 0, ts => unexpected .operand ts
  | budget + 1, ts =>
    if (current ts).kind = .or then do
      let (operand, ts) ← conjunction budget (advance ts)
      let (rest, ts) ← disjuncts budget ts
      return (operand :: rest, ts)
    else
      .ok ([], ts)

/-- A chain of `&&`, or its only operand. -/
def conjunction : Nat → List Token → Except SyntaxError (Expr × List Token)
  | 0, ts => unexpected .operand ts
  | budget + 1, ts => do
    let (first, ts) ← primary budget ts
    if (current ts).kind = .and then
      let (rest, ts) ← conjuncts budget ts
      return (.and (first :: rest), ts)
    else
      return (first, ts)

/-- The operands that follow the first one of a chain of `&&`. -/
def conjuncts : Nat → List Token → Except SyntaxError (List Expr × List Token)
  | 0, ts => unexpected .operand ts
  | budget + 1, ts =>
    if (current ts).kind = .and then do
      let (operand, ts) ← primary budget (advance ts)
      let (rest, ts) ← conjuncts budget ts
      return (operand :: rest, ts)
    else
      .ok ([], ts)

/-- A rule in parentheses, a name, a call or a comparison. -/
def primary : Nat → List Token → Except SyntaxError (Expr × List Token)
  | 0, ts => unexpected .operand ts
  | budget + 1, ts =>
    match (current ts).kind with
    | .open => enclosed budget (advance ts)
    | .ident name => named budget name (advance ts)
    | _ => unexpected .operand ts

/-- The rest of a rule in parentheses, after the opening one. -/
def enclosed : Nat → List Token → Except SyntaxError (Expr × List Token)
  | 0, ts => unexpected .operand ts
  | budget + 1, ts => do
    let (rule, ts) ← disjunction budget ts
    let ((), ts) ← expect .close .close ts
    return (rule, ts)

/-- What follows a name: arguments, a comparison, or nothing. -/
def named : Nat → String → List Token → Except SyntaxError (Expr × List Token)
  | 0, _, ts => unexpected .operand ts
  | budget + 1, name, ts =>
    match (current ts).kind with
    | .open => do
      let ts := advance ts
      if (current ts).kind = .close then
        return (.call name [], advance ts)
      else
        let (args, ts) ← arguments budget ts
        return (.call name args, ts)
    | .equal => do
      let (value, ts) ← comparand budget (advance ts)
      return (.eq name value, ts)
    | _ => .ok (.ident name, ts)

/-- One or more arguments and the closing parenthesis. -/
def arguments : Nat → List Token → Except SyntaxError (List ArgExpr × List Token)
  | 0, ts => unexpected .operand ts
  | budget + 1, ts => do
    let (arg, ts) ← argument budget ts
    if (current ts).kind = .comma then
      let (rest, ts) ← arguments budget (advance ts)
      return (arg :: rest, ts)
    else
      let ((), ts) ← expect .close .commaOrClose ts
      return ([arg], ts)

/-- One argument. -/
def argument : Nat → List Token → Except SyntaxError (ArgExpr × List Token)
  | 0, ts => unexpected .operand ts
  | budget + 1, ts =>
    match literal ts with
    | some taken => .ok taken
    | none => do
      let (rule, ts) ← disjunction budget ts
      return (.expr rule, ts)

/-- The right side of a comparison. -/
def comparand : Nat → List Token → Except SyntaxError (ArgExpr × List Token)
  | 0, ts => unexpected .operand ts
  | budget + 1, ts =>
    match literal ts with
    | some taken => .ok taken
    | none =>
      match (current ts).kind with
      | .ident name => .ok (.expr (.ident name), advance ts)
      | .open => do
        let (rule, ts) ← enclosed budget (advance ts)
        return (.expr rule, ts)
      | _ => unexpected .comparand ts

end

/-- More calls than parsing this many tokens can nest. -/
def budgetFor (ts : List Token) : Nat :=
  8 * ts.length + 8

end Parse

namespace Expr

/-- The rule that a list of tokens spells. -/
def ofTokens (ts : List Token) : Except SyntaxError Expr :=
  if ts.length = 1 then .error .empty
  else do
    let (rule, ts) ← Parse.disjunction (Parse.budgetFor ts) ts
    let ((), _) ← Parse.expect .ending .ending ts
    return rule

/-- The rule that a text spells. -/
def parse (rule : String) : Except SyntaxError Expr := do
  ofTokens (← Token.scan rule)

end Expr

end RecordRules

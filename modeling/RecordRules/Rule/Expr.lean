import RecordRules.Number.Binary

/-!
# Rule expressions

The tree of a rule.  A chain of one operator is one node with all its operands, and a
comparison `name == value` keeps its own node although it means `name(value)`.
-/

namespace RecordRules

mutual

/-- A boolean rule. -/
inductive Expr where
  | and (operands : List Expr)
  | or (operands : List Expr)
  | ident (name : String)
  | call (name : String) (args : List ArgExpr)
  | eq (name : String) (value : ArgExpr)

/-- What stands in an argument or on the right of `==`: a literal or a rule. -/
inductive ArgExpr where
  | integer (value : Int64)
  | float (value : Double)
  | string (value : String)
  | boolean (value : Bool)
  | expr (rule : Expr)

end

instance : Inhabited Expr := ⟨.ident ""⟩

end RecordRules

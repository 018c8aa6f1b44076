import RecordRules.Number.Layout
import RecordRules.Number.Reading
import RecordRules.Number.Word
import RecordRules.Text.Quoted
import RecordRules.Value.Json

/-!
# Literals

A scalar on its own: what annotations assign to fields, and what a scalar field reads
as.
-/

namespace RecordRules

/-- A scalar. -/
inductive Literal where
  | null
  | bool (value : Bool)
  | int (value : Int64)
  | uint (value : UInt64)
  | float (value : Double)
  | str (value : String)
deriving DecidableEq

/-- The text of a truth value. -/
def boolText (b : Bool) : String :=
  if b then "true" else "false"

/-- A truth value as annotations spell it. -/
def readBool (s : String) : Option Bool :=
  if s ∈ ["1", "t", "T", "true", "TRUE", "True"] then some true
  else if s ∈ ["0", "f", "F", "false", "FALSE", "False"] then some false
  else none

namespace Literal

/-- The text that a literal stands for. -/
def text : Literal → String
  | null => "null"
  | bool b => boolText b
  | int n => int64Text n
  | uint n => uint64Text n
  | float x => x.text
  | str s => s

/-- A literal with its kind, for messages. -/
def describe : Literal → String
  | null => "Null"
  | bool b => "Bool(" ++ boolText b ++ ")"
  | int n => "Int(" ++ int64Text n ++ ")"
  | uint n => "Uint(" ++ uint64Text n ++ ")"
  | float x => "Float(" ++ x.markedText ++ ")"
  | str s => "Str(" ++ quoted s ++ ")"

/-- The literal that a JSON scalar is: integers that fit are signed. -/
def ofJson? : Json → Option Literal
  | .null => some null
  | .bool b => some (bool b)
  | .integer n =>
    if IntType.int64.Holds n.val then some (int (Int64.ofInt n.val))
    else some (uint (UInt64.ofNat n.val.toNat))
  | .float x => some (float x.val)
  | .string s => some (str s)
  | .array _ => none
  | .object _ => none

end Literal

/-- The JSON document that a literal is. -/
def Json.ofLiteral : Literal → Json
  | .null => .null
  | .bool b => .bool b
  | .int n => .ofInt n.toInt
  | .uint n => .ofInt n.toNat
  | .float x => .ofDouble x
  | .str s => .string s

end RecordRules

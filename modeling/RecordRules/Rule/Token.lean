import RecordRules.Number.Layout
import RecordRules.Number.Word
import RecordRules.Text.Quoted

/-!
# Tokens of a rule

The words a rule such as `zero || (min==3 && max(10))` is made of, each with the byte
offset at which it starts, and the ways in which a text can fail to be a rule.
-/

namespace RecordRules

/-- What a token is; strings have their escapes resolved. -/
inductive TokenKind where
  | ident (name : String)
  | integer (value : Int64)
  | float (value : Double)
  | string (value : String)
  | boolean (value : Bool)
  | open
  | close
  | comma
  | and
  | or
  | equal
  | ending
deriving DecidableEq

namespace TokenKind

/-- How messages name a token. -/
def describe : TokenKind → String
  | ident name => "identifier '" ++ name ++ "'"
  | integer value => "integer " ++ int64Text value
  | float value => "float " ++ value.text
  | string value => "string " ++ quoted value
  | boolean value => if value then "boolean true" else "boolean false"
  | .open => "'('"
  | close => "')'"
  | comma => "','"
  | .and => "'&&'"
  | .or => "'||'"
  | equal => "'=='"
  | ending => "end of input"

end TokenKind

/-- A token and the byte offset of its first character. -/
structure Token where
  kind : TokenKind
  position : Nat
deriving DecidableEq

/-- What the grammar would accept where it meets something else. -/
inductive Expectation where
  | operand
  | close
  | commaOrClose
  | comparand
  | ending
deriving DecidableEq, Repr

namespace Expectation

/-- How messages name what is missing. -/
def describe : Expectation → String
  | operand => "identifier or '('"
  | close => "')'"
  | commaOrClose => "',' or ')'"
  | comparand => "literal, identifier or '('"
  | ending => "end of input"

end Expectation

/-- Why a text is no rule.  Positions are byte offsets. -/
inductive SyntaxError where
  | empty
  | unexpectedChar (ch : Char) (position : Nat)
  | unterminatedString (position : Nat)
  | invalidNumber (text : String) (position : Nat)
  | unexpectedToken (expected : Expectation) (found : TokenKind) (position : Nat)
deriving DecidableEq

namespace SyntaxError

/-- The message of a syntax error. -/
def message : SyntaxError → String
  | empty => "empty rule expression"
  | unexpectedChar ch position =>
    "unexpected character '" ++ String.singleton ch ++ "' at position " ++ toString position
  | unterminatedString position =>
    "unterminated string literal starting at position " ++ toString position
  | invalidNumber text position =>
    "invalid number '" ++ text ++ "' at position " ++ toString position
  | unexpectedToken expected found position =>
    "expected " ++ expected.describe ++ " at position " ++ toString position ++
      ", found " ++ found.describe

end SyntaxError

end RecordRules

import RecordRules.Text.Hidden

/-!
# Quoted text

How messages and rule texts show a string: between double quotes, with the quote
and the backslash escaped, the four named controls by their letter, and every
other hidden character by its code point in braces.
-/

namespace RecordRules

/-- The quoted form of one character. -/
def escapeChar (c : Char) : List Char :=
  if c = '"' then ['\\', '"']
  else if c = '\\' then ['\\', '\\']
  else if c = '\n' then ['\\', 'n']
  else if c = '\r' then ['\\', 'r']
  else if c = '\t' then ['\\', 't']
  else if c = '\x00' then ['\\', '0']
  else if isHidden c then ['\\', 'u', '\x7b'] ++ Nat.toDigits 16 c.toNat ++ ['\x7d']
  else [c]

/-- The characters of the quoted form. -/
def quoteChars (cs : List Char) : List Char :=
  '"' :: (cs.flatMap escapeChar ++ ['"'])

/-- The quoted form of a string. -/
def quoted (s : String) : String :=
  String.ofList (quoteChars s.toList)

end RecordRules

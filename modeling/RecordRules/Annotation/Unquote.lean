import RecordRules.Text.Code

/-!
# Quoted annotation values

An annotation value stands between double quotes.  Inside, a backslash starts an
escape: a letter for a control, one of the three marks for itself, three octal digits,
or `x`, `u`, `U` with two, four or eight hexadecimal digits.  A bare quote or line feed
ends the text too early, and an escape that is none of these has no meaning.
-/

namespace RecordRules

/-- A character given by hexadecimal digits. -/
def hexEscape (count : Nat) (cs : List Char) : Option (Char × List Char) :=
  (readCode hexDigit? 16 count 0 cs).bind fun (code, rest) =>
    (charOfCode? code).map fun c => (c, rest)

/-- A character below 256 given by three octal digits. -/
def octalEscape (cs : List Char) : Option (Char × List Char) :=
  (readCode octalDigit? 8 3 0 cs).bind fun (code, rest) =>
    if code ≤ 0xff then (charOfCode? code).map fun c => (c, rest) else none

/-- The character of the escape after a backslash, and what follows it. -/
def unescape : List Char → Option (Char × List Char)
  | [] => none
  | 'a' :: cs => some ('\x07', cs)
  | 'b' :: cs => some ('\x08', cs)
  | 'f' :: cs => some ('\x0c', cs)
  | 'n' :: cs => some ('\n', cs)
  | 'r' :: cs => some ('\r', cs)
  | 't' :: cs => some ('\t', cs)
  | 'v' :: cs => some ('\x0b', cs)
  | '\\' :: cs => some ('\\', cs)
  | '\'' :: cs => some ('\'', cs)
  | '"' :: cs => some ('"', cs)
  | 'x' :: cs => hexEscape 2 cs
  | 'u' :: cs => hexEscape 4 cs
  | 'U' :: cs => hexEscape 8 cs
  | c :: cs => if (octalDigit? c).isSome then octalEscape (c :: cs) else none

theorem hexEscape_length {count : Nat} {cs rest : List Char} {c : Char}
    (h : hexEscape count cs = some (c, rest)) : rest.length ≤ cs.length := by
  simp only [hexEscape, Option.bind_eq_some_iff, Option.map_eq_some_iff] at h
  obtain ⟨⟨code, left⟩, read, ch, -, eq⟩ := h
  cases eq
  exact readCode_length read

theorem octalEscape_length {cs rest : List Char} {c : Char}
    (h : octalEscape cs = some (c, rest)) : rest.length ≤ cs.length := by
  simp only [octalEscape, Option.bind_eq_some_iff] at h
  obtain ⟨⟨code, left⟩, read, h⟩ := h
  split at h
  · obtain ⟨ch, -, eq⟩ := Option.map_eq_some_iff.1 h
    cases eq
    exact readCode_length read
  · cases h

theorem unescape_length {cs rest : List Char} {c : Char} (h : unescape cs = some (c, rest)) :
    rest.length ≤ cs.length := by
  revert h
  fun_cases unescape cs <;> intro h
  all_goals first
    | exact Nat.le_succ_of_le (hexEscape_length h)
    | exact octalEscape_length h
    | (cases h <;> simp)

/-- The characters between the quotes, escapes resolved. -/
def decodeBody (cs : List Char) : Option (List Char) :=
  match cs with
  | [] => some []
  | c :: cs =>
    if c = '"' ∨ c = '\n' then none
    else if c = '\\' then
      match _h : unescape cs with
      | some (e, rest) => (decodeBody rest).map (e :: ·)
      | none => none
    else (decodeBody cs).map (c :: ·)
termination_by cs.length
decreasing_by
  · exact Nat.lt_succ_of_le (unescape_length ‹_›)
  · exact Nat.lt_succ_self _

/-- The characters between two double quotes at the ends. -/
def stripQuotes : List Char → Option (List Char)
  | '"' :: cs => if cs.getLast? = some '"' then some cs.dropLast else none
  | _ => none

/-- A text that is no quoted value. -/
structure UnquoteError where
  quoted : String
deriving DecidableEq

namespace UnquoteError

/-- The message of the error. -/
def message (e : UnquoteError) : String :=
  "invalid quoted value " ++ e.quoted

end UnquoteError

/-- A character that a quoted value cannot hold as it is. -/
def needsEscape (c : Char) : Bool :=
  c = '\\' || c = '"' || c = '\n'

/-- The text that a quoted value stands for. -/
def unquote (quoted : String) : Except UnquoteError String :=
  match stripQuotes quoted.toList with
  | none => .error ⟨quoted⟩
  | some body =>
    if !body.any needsEscape then .ok (String.ofList body)
    else
      match decodeBody body with
      | some value => .ok (String.ofList value)
      | none => .error ⟨quoted⟩

end RecordRules

import RecordRules.Number.Reading
import RecordRules.Rule.Token
import RecordRules.Text.Blank
import RecordRules.Text.Code
import RecordRules.Text.Letter
import RecordRules.Text.Numeral

/-!
# From text to tokens

`Token.scan` splits a rule into its tokens.  Each step skips blanks and takes one
lexeme, whose length `lexeme` determines from the characters at hand, looking at most
one character past it.  A lexeme is never empty (`lexeme_length_pos`), so the rest of
the text gets shorter with each token.
-/

namespace RecordRules

/-- A token without its position, and how many characters it takes. -/
structure Lexeme where
  kind : TokenKind
  length : Nat
deriving DecidableEq

/-- The character an escape in a string literal stands for. -/
def resolveEscape : Char → Char
  | 'n' => '\n'
  | 't' => '\t'
  | 'r' => '\r'
  | '0' => '\x00'
  | c => c

/-- The value of a string literal after its opening quote, and the number of characters
up to and with the closing one. -/
def stringBody (quote : Char) : List Char → Option (List Char × Nat)
  | [] => none
  | c :: cs =>
    if c = quote then some ([], 1)
    else if c = '\\' then
      match cs with
      | [] => none
      | e :: cs => (stringBody quote cs).map fun (value, n) => (resolveEscape e :: value, n + 2)
    else (stringBody quote cs).map fun (value, n) => (c :: value, n + 1)

/-- The first character, if it exists, is a digit. -/
def startsWithDigit : List Char → Bool
  | [] => false
  | c :: _ => c.isDigit

/-- How many characters go on a number, and whether they or those before them make it a
floating-point number.  A point counts once and only before a digit; an exponent mark
may be followed by a sign. -/
def numberLength (float : Bool) : List Char → Nat × Bool
  | [] => (0, float)
  | c :: cs =>
    if c.isDigit || c = '_' then
      let (n, float) := numberLength float cs
      (n + 1, float)
    else if c = '.' && !float && startsWithDigit cs then
      let (n, float) := numberLength true cs
      (n + 1, float)
    else if c = 'e' || c = 'E' then
      match cs with
      | [] => (1, true)
      | s :: rest =>
        if s = '-' || s = '+' then
          let (n, float) := numberLength true rest
          (n + 2, float)
        else
          let (n, float) := numberLength true (s :: rest)
          (n + 1, float)
    else (0, float)

/-- The token of a number literal, underscores left out. -/
def numberKind (text : List Char) (float : Bool) : Option TokenKind :=
  let text := text.filter (· ≠ '_')
  if float then (Binary.read? text).map .float
  else ((readInteger true text).bind int64?).map .integer

/-- A character that may start a name. -/
def startsName (c : Char) : Bool :=
  isLetter c || c = '_'

/-- A character that may go on a name. -/
def continuesName (c : Char) : Bool :=
  isLetter c || isNumeral c || c = '_' || c = '.'

/-- The token of a name; two names are literals. -/
def nameKind (name : List Char) : TokenKind :=
  match String.ofList name with
  | "true" => .boolean true
  | "false" => .boolean false
  | name => .ident name

/-- The lexeme of a number whose first character is a sign or a digit. -/
def numberLexeme (position : Nat) (c : Char) (cs : List Char) : Except SyntaxError Lexeme :=
  let (n, float) := numberLength false cs
  let text := c :: cs.take n
  match numberKind text float with
  | some kind => .ok ⟨kind, n + 1⟩
  | none => .error (.invalidNumber (String.ofList text) position)

/-- The lexeme that starts with a character that is no blank. -/
def lexeme (position : Nat) (c : Char) (cs : List Char) : Except SyntaxError Lexeme :=
  if c = '(' then .ok ⟨.open, 1⟩
  else if c = ')' then .ok ⟨.close, 1⟩
  else if c = ',' then .ok ⟨.comma, 1⟩
  else if c = '&' && cs.head? = some '&' then .ok ⟨.and, 2⟩
  else if c = '|' && cs.head? = some '|' then .ok ⟨.or, 2⟩
  else if c = '=' && cs.head? = some '=' then .ok ⟨.equal, 2⟩
  else if c = '"' || c = '\'' then
    match stringBody c cs with
    | some (value, n) => .ok ⟨.string (String.ofList value), n + 1⟩
    | none => .error (.unterminatedString position)
  else if (c = '-' || c = '+') && startsWithDigit cs then numberLexeme position c cs
  else if c.isDigit then numberLexeme position c cs
  else if startsName c then
    let rest := cs.takeWhile continuesName
    .ok ⟨nameKind (c :: rest), rest.length + 1⟩
  else .error (.unexpectedChar c position)

theorem numberLexeme_length_pos {position : Nat} {c : Char} {cs : List Char} {l : Lexeme}
    (h : numberLexeme position c cs = .ok l) : 0 < l.length := by
  simp only [numberLexeme] at h
  split at h
  · cases h; exact Nat.succ_pos _
  · cases h

theorem lexeme_length_pos {position : Nat} {c : Char} {cs : List Char} {l : Lexeme}
    (h : lexeme position c cs = .ok l) : 0 < l.length := by
  simp only [lexeme] at h
  repeat' split at h
  all_goals first
    | exact numberLexeme_length_pos h
    | (cases h <;> exact Nat.succ_pos _)

namespace Token

/-- The next token of a text that starts at a position, with the text after it and its
position. -/
def next (position : Nat) (cs : List Char) : Except SyntaxError (Token × Nat × List Char) :=
  let start := position + byteLength (cs.takeWhile isBlank)
  match dropBlanks cs with
  | [] => .ok (⟨.ending, start⟩, start, [])
  | c :: rest =>
    (lexeme start c rest).map fun l =>
      (⟨l.kind, start⟩, start + byteLength ((c :: rest).take l.length),
        (c :: rest).drop l.length)

theorem next_shorter {position after : Nat} {cs rest : List Char} {t : Token}
    (h : next position cs = .ok (t, after, rest)) (more : t.kind ≠ .ending) :
    rest.length < cs.length := by
  have suffix : (dropBlanks cs).length ≤ cs.length :=
    (List.dropWhile_sublist _).length_le
  simp only [next] at h
  split at h
  · cases h; exact absurd rfl more
  · next c tail eq =>
    cases step : lexeme (position + byteLength (cs.takeWhile isBlank)) c tail with
    | error e => rw [step] at h; cases h
    | ok l =>
      rw [step] at h
      cases h
      have pos := lexeme_length_pos step
      rw [eq] at suffix
      simp only [List.length_drop, List.length_cons] at suffix ⊢
      omega

/-- All tokens from a position on; the last one is the end of the text. -/
def scanFrom (position : Nat) (cs : List Char) : Except SyntaxError (List Token) :=
  match _h : next position cs with
  | .error e => .error e
  | .ok (t, after, rest) =>
    if _more : t.kind = .ending then .ok [t]
    else (scanFrom after rest).map (t :: ·)
termination_by cs.length
decreasing_by exact next_shorter ‹_› ‹_›

theorem scanFrom_ending {position after : Nat} {cs rest : List Char} {t : Token}
    (taken : next position cs = .ok (t, after, rest)) (ending : t.kind = .ending) :
    scanFrom position cs = .ok [t] := by
  rw [scanFrom]
  split
  · next h => rw [taken] at h; cases h
  · next h =>
    rw [taken] at h
    cases h
    rw [dif_pos ending]

theorem scanFrom_next {position after : Nat} {cs rest : List Char} {t : Token} {ts : List Token}
    (taken : next position cs = .ok (t, after, rest)) (more : t.kind ≠ .ending)
    (others : scanFrom after rest = .ok ts) : scanFrom position cs = .ok (t :: ts) := by
  rw [scanFrom]
  split
  · next h => rw [taken] at h; cases h
  · next h =>
    rw [taken] at h
    cases h
    rw [dif_neg more, others]
    rfl

/-- The tokens of a rule. -/
def scan (rule : String) : Except SyntaxError (List Token) :=
  scanFrom 0 rule.toList

end Token

end RecordRules

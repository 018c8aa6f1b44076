import RecordRules.Annotation.Unquote
import RecordRules.Value.Json.Number

/-!
# Reading JSON text

`Json.read?` reads a whole text as one JSON document.  Every reader below takes the
characters still to be read and gives back those it left; the nested ones work on a
budget, which the length of the text always covers.
-/

namespace RecordRules.Json

/-- Removes the characters that may stand between the parts of a document. -/
def skipSpace (cs : List Char) : List Char :=
  cs.dropWhile fun c => c = ' ' || c = '\t' || c = '\n' || c = '\r'

/-- The characters of a number, and what follows them. -/
def takeNumber (cs : List Char) : List Char × List Char :=
  cs.span fun c => c.isDigit || c = '-' || c = '+' || c = '.' || c = 'e' || c = 'E'

/-- The character of a `u` escape: four hexadecimal digits, or two such escapes that
together stand for one character beyond the first plane. -/
def readUnicodeEscape (cs : List Char) : Option (Char × List Char) :=
  (readCode hexDigit? 16 4 0 cs).bind fun (high, rest) =>
    if 0xd800 ≤ high ∧ high < 0xdc00 then
      match rest with
      | '\\' :: 'u' :: rest =>
        (readCode hexDigit? 16 4 0 rest).bind fun (low, rest) =>
          if 0xdc00 ≤ low ∧ low < 0xe000 then
            (charOfCode? (0x10000 + (high - 0xd800) * 0x400 + (low - 0xdc00))).map fun c =>
              (c, rest)
          else none
      | _ => none
    else (charOfCode? high).map fun c => (c, rest)

/-- The character of an escape, after the backslash. -/
def readEscape : List Char → Option (Char × List Char)
  | '"' :: cs => some ('"', cs)
  | '\\' :: cs => some ('\\', cs)
  | '/' :: cs => some ('/', cs)
  | 'b' :: cs => some ('\x08', cs)
  | 'f' :: cs => some ('\x0c', cs)
  | 'n' :: cs => some ('\n', cs)
  | 'r' :: cs => some ('\r', cs)
  | 't' :: cs => some ('\t', cs)
  | 'u' :: cs => readUnicodeEscape cs
  | _ => none

/-- The characters of a string after its opening quote, in reverse before those given. -/
def readString : Nat → List Char → List Char → Option (String × List Char)
  | 0, _, _ => none
  | _ + 1, _, [] => none
  | _ + 1, before, '"' :: cs => some (String.ofList before.reverse, cs)
  | budget + 1, before, '\\' :: cs =>
    (readEscape cs).bind fun (c, rest) => readString budget (c :: before) rest
  | budget + 1, before, c :: cs =>
    if c.toNat < 0x20 then none else readString budget (c :: before) cs

/-- What follows a word that must stand here. -/
def expectWord (word : String) (cs : List Char) : Option (List Char) :=
  if word.toList.isPrefixOf cs then some (cs.drop word.length) else none

mutual

/-- A value, and what follows it. -/
def readValue : Nat → List Char → Option (Json × List Char)
  | 0, _ => none
  | budget + 1, cs =>
    match skipSpace cs with
    | '\x7b' :: cs =>
      match skipSpace cs with
      | '\x7d' :: cs => some (.object [], cs)
      | cs => (readMembers budget cs).map fun (members, cs) => (.ofMembers members, cs)
    | '[' :: cs =>
      match skipSpace cs with
      | ']' :: cs => some (.array [], cs)
      | cs => (readItems budget cs).map fun (items, cs) => (.array items, cs)
    | '"' :: cs => (readString (cs.length + 1) [] cs).map fun (s, cs) => (.string s, cs)
    | 't' :: cs => (expectWord "rue" cs).map fun cs => (.bool true, cs)
    | 'f' :: cs => (expectWord "alse" cs).map fun cs => (.bool false, cs)
    | 'n' :: cs => (expectWord "ull" cs).map fun cs => (.null, cs)
    | cs =>
      let (text, rest) := takeNumber cs
      (readNumber text).map fun n => (n, rest)

/-- One or more items and the closing bracket. -/
def readItems : Nat → List Char → Option (List Json × List Char)
  | 0, _ => none
  | budget + 1, cs =>
    (readValue budget cs).bind fun (item, cs) =>
      match skipSpace cs with
      | ',' :: cs => (readItems budget cs).map fun (items, cs) => (item :: items, cs)
      | ']' :: cs => some ([item], cs)
      | _ => none

/-- One or more members and the closing brace. -/
def readMembers : Nat → List Char → Option (List (String × Json) × List Char)
  | 0, _ => none
  | budget + 1, cs =>
    match skipSpace cs with
    | '"' :: cs =>
      (readString (cs.length + 1) [] cs).bind fun (name, cs) =>
        match skipSpace cs with
        | ':' :: cs =>
          (readValue budget cs).bind fun (value, cs) =>
            match skipSpace cs with
            | ',' :: cs =>
              (readMembers budget cs).map fun (members, cs) => ((name, value) :: members, cs)
            | '\x7d' :: cs => some ([(name, value)], cs)
            | _ => none
        | _ => none
    | _ => none

end

/-- The document that a text is. -/
def read? (text : String) : Option Json :=
  let cs := text.toList
  match readValue (2 * cs.length + 2) cs with
  | some (j, rest) => if (skipSpace rest).isEmpty then some j else none
  | none => none

end RecordRules.Json

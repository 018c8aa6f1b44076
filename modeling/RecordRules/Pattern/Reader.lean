import RecordRules.Number.Power
import RecordRules.Number.Reading
import RecordRules.Pattern.Machine
import RecordRules.Pattern.Property
import RecordRules.Text.Blank
import RecordRules.Text.CaseFold
import RecordRules.Text.Code
import RecordRules.Text.Letter
import RecordRules.Text.Numeral
import RecordRules.Text.Pieces

/-!
# Reading patterns

```text
pattern := branch ( "|" branch )*
branch  := ( item repeat? )*
item    := CHARACTER | "." | "^" | "$" | ESCAPE | class | "(" group ")"
repeat  := ( "?" | "*" | "+" | "{" count "}" ) "?"?
class   := "[" "^"? member* ( ( "&&" | "--" | "~~" ) member* )* "]"
```

A group may carry a name or options, and options alone hold until the end of the group
around them.  The readers share what is still to be read, the options in force, the
number of groups and the names used so far; they call one another on a budget that is
more than the characters can use up.  Beside each pattern they give how deep its text
nests: a pattern that nests too deeply, or takes too large a machine, is refused.
-/

namespace RecordRules

/-- How what follows in a pattern is to be read. -/
structure PatternOptions where
  /-- Letters match letters that differ in case only. -/
  anyCase : Bool := false
  /-- `^` and `$` match at every line. -/
  lines : Bool := false
  /-- `.` matches line feeds too. -/
  dotAll : Bool := false
  /-- Repetitions prefer few matches, and many only where a `?` follows. -/
  sparing : Bool := false
  /-- A line ends with a carriage return and a line feed, or with either. -/
  crlf : Bool := false
  /-- Classes hold characters of all scripts. -/
  unicode : Bool := true
  /-- Blanks and comments are not part of the pattern. -/
  spaced : Bool := false

namespace Pattern

/-- Where a reader is. -/
structure Reading where
  rest : List Char
  options : PatternOptions := {}
  groups : Nat := 0
  names : List String := []

/-- A reader; it fails where the text is no pattern. -/
abbrev Reader := StateT Reading Option

/-- A pattern, and how deep its text nests. -/
structure Nested where
  pattern : Pattern
  depth : Nat

/-- A part of a pattern before repetition: options set in passing cannot be repeated. -/
inductive Item where
  | part (p : Nested)
  | setting

/-- What an escape or a single character stands for. -/
inductive Atom where
  | literal (c : Char)
  | set (s : CharSet)
  | assertion (a : Assertion)

/-- What is left after blanks and comments. -/
def dropSpaced (inComment : Bool) : List Char → List Char
  | [] => []
  | c :: cs =>
    if inComment then dropSpaced (c != '\n') cs
    else if isBlank c then dropSpaced false cs
    else if c = '#' then dropSpaced true cs
    else c :: cs

/-- The options in force. -/
def options : Reader PatternOptions := do
  return (← get).options

/-- The character at hand. -/
def peek? : Reader (Option Char) := do
  return (← get).rest.head?

/-- The character at hand; fails at the end. -/
def peek : Reader Char := do
  match ← peek? with
  | some c => return c
  | none => failure

/-- Skips blanks and comments where they do not count. -/
def skipSpaced : Reader Unit :=
  modify fun r =>
    if r.options.spaced then { r with rest := dropSpaced false r.rest } else r

/-- Takes a character. -/
def bump : Reader Unit :=
  modify fun r => { r with rest := r.rest.drop 1 }

/-- Takes a character and what does not count after it. -/
def step : Reader Unit := do
  bump
  skipSpaced

/-- Takes a text if it is at hand. -/
def taken? (text : String) : Reader Bool := do
  let r ← get
  if text.toList.isPrefixOf r.rest then
    set { r with rest := r.rest.drop text.length }
    return true
  else return false

/-- The characters at the front with a property; with `spaced`, what does not count
after each of them is skipped. -/
def takeWhile (p : Char → Bool) : Nat → Reader (List Char)
  | 0 => return []
  | budget + 1 => do
    match ← peek? with
    | some c =>
      if p c then
        step
        return c :: (← takeWhile p budget)
      else return []
    | none => return []

/-- More characters than there are. -/
def budget : Reader Nat := do
  return (← get).rest.length + 1

/-! ## Single characters -/

/-- A set without regard to case, if the options say so. -/
def foldedSet (o : PatternOptions) (s : CharSet) : CharSet :=
  if !o.anyCase then s else if o.unicode then s.folded else s.asciiFolded

/-- All other characters, if a class is negated.  Where classes hold single bytes only,
the rest would not be text. -/
def negatedSet (o : PatternOptions) (negated : Bool) (s : CharSet) : Reader CharSet :=
  if !negated then return s else if o.unicode then return s.compl else failure

/-- The set for `.`. -/
def anySet (o : PatternOptions) : Reader CharSet :=
  if !o.unicode then failure
  else if o.dotAll then return .all
  else if o.crlf then return (CharSet.single '\n').union (.single '\r') |>.compl
  else return (CharSet.single '\n').compl

/-- A character given by its code in hexadecimal digits, after the letter. -/
def hexadecimal (letter : Char) : Reader Char := do
  step
  let o ← options
  if (← peek) = '\x7b' then
    step
    let digits ← takeWhile (fun c => (hexDigit? c).isSome) (← budget)
    if digits.isEmpty || (← peek) != '\x7d' then failure
    step
    match (readCode hexDigit? 16 digits.length 0 digits).bind fun read => charOfCode? read.1 with
    | some c => return c
    | none => failure
  else
    let count := if letter = 'x' then 2 else if letter = 'u' then 4 else 8
    let digits ← takeWhile (fun c => (hexDigit? c).isSome) count
    if digits.length < count then failure
    match (readCode hexDigit? 16 count 0 digits).bind fun read => charOfCode? read.1 with
    | some c => if letter = 'x' && !o.unicode && '\x7f' < c then failure else return c
    | none => failure

/-- The set of a property query as it stands between braces, and whether the query asks
for all other characters. -/
def queriedSet? (query : List Char) : Option (CharSet × Bool) :=
  let ofValue (pair : List Char × List Char) :=
    CharSet.ofValue? (String.ofList pair.1) (String.ofList pair.2)
  match cutAtPiece ['!', '='] query with
  | some pair => (ofValue pair).map fun s => (s, true)
  | none =>
    match (cutAtPiece [':'] query).or (cutAtPiece ['='] query) with
    | some pair => (ofValue pair).map fun s => (s, false)
    | none => (CharSet.ofName? (String.ofList query)).map fun s => (s, false)

/-- A set given by a property, after its letter. -/
def propertySet (negated : Bool) : Reader CharSet := do
  step
  let o ← options
  let first ← peek
  let query ←
    if first = '\x7b' then do
      step
      let query ← takeWhile (fun c => c != '\x7d') (← budget)
      let _ ← peek
      bump
      pure query
    else if first = '\\' then failure
    else do
      step
      pure [first]
  if !o.unicode then failure
  match queriedSet? query with
  | some (s, others) => negatedSet o (negated != others) (foldedSet o s)
  | none => failure

/-- One of the three sets with a letter of their own; the capital negates. -/
def letteredSet (o : PatternOptions) (letter : Char) : Reader CharSet :=
  let base := match letter.toLower with
    | 'd' => if o.unicode then some CharSet.digits else CharSet.named? "digit"
    | 's' => if o.unicode then some CharSet.blanks else CharSet.named? "space"
    | _ => if o.unicode then some CharSet.wordChars else CharSet.named? "word"
  negatedSet o letter.isUpper (base.getD .empty)

/-- The boundary named between braces after `\b`; what cannot be such a name is left for
a repetition. -/
def namedBoundary (ascii : Bool) : Reader Assertion := do
  let before ← get
  let isNameChar (c : Char) : Bool := c.isAlpha || c == '-'
  if ← taken? "\x7b" then
    skipSpaced
    if !isNameChar (← peek) then
      set before
      return .wordBoundary ascii
    let name ← takeWhile isNameChar (← budget)
    if (← peek) != '\x7d' then failure
    bump
    match String.ofList name with
    | "start" => return .wordStart ascii
    | "end" => return .wordEnd ascii
    | "start-half" => return .wordStartHalf ascii
    | "end-half" => return .wordEndHalf ascii
    | _ => failure
  else return .wordBoundary ascii

/-- The marks that patterns use; a backslash makes each of them plain. -/
def isMark (c : Char) : Bool :=
  "\\.+*?()|[]\x7b\x7d^$#&-~".toList.contains c

/-- What an escape stands for; the backslash is at hand. -/
def escape : Reader Atom := do
  bump
  let c ← peek
  let o ← options
  if c = 'x' || c = 'u' || c = 'U' then return .literal (← hexadecimal c)
  else if c = 'p' || c = 'P' then return .set (← propertySet (c == 'P'))
  else if "dswDSW".toList.contains c then
    bump
    return .set (← letteredSet o c)
  else
    bump
    if isMark c then return .literal c
    match c with
    | 'a' => return .literal '\x07'
    | 'f' => return .literal '\x0c'
    | 'n' => return .literal '\n'
    | 'r' => return .literal '\r'
    | 't' => return .literal '\t'
    | 'v' => return .literal '\x0b'
    | 'A' => return .assertion .textStart
    | 'z' => return .assertion .textEnd
    | 'b' => return .assertion (← namedBoundary !o.unicode)
    | 'B' => return .assertion (.noWordBoundary !o.unicode)
    | '<' => return .assertion (.wordStart !o.unicode)
    | '>' => return .assertion (.wordEnd !o.unicode)
    | c => if c < '\x80' && !c.isAlphanum then return .literal c else failure

/-! ## Classes -/

/-- A class of ASCII characters by name, such as `[:alpha:]`, if one is at hand. -/
def namedClass? : Reader (Option CharSet) := do
  let before ← get
  let o := before.options
  if ← taken? "[:" then
    let negated ← taken? "^"
    let r ← get
    let name := r.rest.takeWhile (· ≠ ':')
    set { r with rest := r.rest.drop name.length }
    if ← taken? ":]" then
      match CharSet.named? (String.ofList name) with
      | some s => return some (← negatedSet o negated (foldedSet o s))
      | none => pure ()
  set before
  return none

/-- One end of a range, or a member of its own. -/
def classAtom : Reader Atom := do
  if (← peek) = '\\' then escape
  else
    let c ← peek
    bump
    return .literal c

/-- The set that a member stands for. -/
def memberSet (o : PatternOptions) : Atom → Reader CharSet
  | .literal c => if !o.unicode && '\x7f' < c then failure else return .single c
  | .set s => return s
  | .assertion _ => failure

/-- A member of a class: a range, a character or a set. -/
def member : Reader CharSet := do
  let o ← options
  let first ← classAtom
  skipSpaced
  let here ← get
  let after :=
    if o.spaced then dropSpaced false (here.rest.drop 1) else here.rest.drop 1
  let next := after.head?
  if (← peek) != '-' || next = some ']' || next = some '-' then memberSet o first
  else
    step
    let _ ← peek
    let last ← classAtom
    match first, last with
    | .literal low, .literal high =>
      if high < low || (!o.unicode && '\x7f' < high) then failure
      return .range low high
    | _, _ => failure

/-- Members of a class: their set, their number and how deep they nest. -/
structure Members where
  set : CharSet := .empty
  count : Nat := 0
  depth : Nat := 0

namespace Members

/-- One member more. -/
def add (m : Members) (s : CharSet) (depth : Nat) : Members :=
  ⟨m.set.union s, m.count + 1, max m.depth depth⟩

/-- How deep the members nest, put together. -/
def together (m : Members) : Nat :=
  if m.count ≤ 1 then m.depth else m.depth + 1

end Members

/-- The hyphens at the front of a class, which stand for themselves. -/
def leadingHyphens : Nat → Members → Reader Members
  | 0, m => return m
  | budget + 1, m => do
    if (← peek) = '-' then
      step
      leadingHyphens budget (m.add (.single '-') 0)
    else return m

/-- The operators between parts of a class. -/
inductive ClassOperator where
  | inter | diff | symmDiff

namespace ClassOperator

/-- The set that the operator makes of two. -/
def apply : ClassOperator → CharSet → CharSet → CharSet
  | inter => CharSet.inter
  | diff => CharSet.diff
  | symmDiff => CharSet.symmDiff

end ClassOperator

/-- What stands to the left of an operator: a set, how deep it nests, and the operator. -/
structure LeftPart where
  set : CharSet
  depth : Nat
  operator : ClassOperator

/-- The members after an operator, put together with what stands to its left. -/
def joinParts (o : PatternOptions) (left : Option LeftPart) (m : Members) : CharSet × Nat :=
  match left with
  | some l =>
    (l.operator.apply (foldedSet o l.set) (foldedSet o m.set), max l.depth m.together + 1)
  | none => (m.set, m.together)

mutual

/-- A class, and how deep it nests; the opening bracket is at hand. -/
def charClass : Nat → Reader (CharSet × Nat)
  | 0 => failure
  | n + 1 => do
    let o ← options
    step
    let negated := (← peek) == '^'
    if negated then step
    let opened ← leadingHyphens (← budget) {}
    let members ←
      if opened.count = 0 && (← peek) == ']' then do
        step
        let _ ← peek
        pure (opened.add (.single ']') 0)
      else pure opened
    let (s, depth) ← classParts n none members
    return (← negatedSet o negated (foldedSet o s), depth + 1)

/-- The rest of a class up to its closing bracket, after the part to the left of the
last operator, if there was one, and the members since then. -/
def classParts : Nat → Option LeftPart → Members → Reader (CharSet × Nat)
  | 0, _, _ => failure
  | n + 1, left, members => do
    let o ← options
    skipSpaced
    let after (operator : ClassOperator) : Reader (CharSet × Nat) :=
      let (s, depth) := joinParts o left members
      classParts n (some ⟨s, depth, operator⟩) {}
    if (← peek) = ']' then
      bump
      return joinParts o left members
    else if (← peek) = '[' then
      match ← namedClass? with
      | some s => classParts n left (members.add s 0)
      | none => do
        let (s, depth) ← charClass n
        classParts n left (members.add s depth)
    else if ← taken? "&&" then after .inter
    else if ← taken? "--" then after .diff
    else if ← taken? "~~" then after .symmDiff
    else classParts n left (members.add (← member) 0)

end

/-! ## Groups and repetitions -/

/-- One or more options to set and, after a hyphen, to clear; the first character that
is no option ends them. -/
def optionFlags : Nat → Bool → List Char → PatternOptions → Reader PatternOptions
  | 0, _, _, _ => failure
  | n + 1, value, seen, o => do
    let c ← peek
    if c = ':' || c = ')' then
      if seen.head? = some '-' then failure else return o
    else if seen.contains c then failure
    else
      bump
      let _ ← peek
      let next := optionFlags n value (c :: seen)
      match c with
      | '-' => optionFlags n false (c :: seen) o
      | 'i' => next { o with anyCase := value }
      | 'm' => next { o with lines := value }
      | 's' => next { o with dotAll := value }
      | 'U' => next { o with sparing := value }
      | 'u' => next { o with unicode := value }
      | 'R' => next { o with crlf := value }
      | 'x' => next { o with spaced := value }
      | _ => failure

/-- The name of a group, up to and with the closing mark. -/
def groupName : Reader Unit := do
  let r ← get
  let name := r.rest.takeWhile (· ≠ '>')
  let isFirst (c : Char) : Bool := c == '_' || isLetter c
  let isOther (c : Char) : Bool :=
    c == '_' || c == '.' || c == '[' || c == ']' || isLetter c || isNumeral c
  match name with
  | [] => failure
  | c :: cs =>
    if !isFirst c || !cs.all isOther || r.rest.length = name.length then failure
    let text := String.ofList name
    if r.names.contains text then failure
    set { r with rest := r.rest.drop (name.length + 1), names := text :: r.names }

/-- A number in the braces of a repetition, with blanks around it. -/
def count? : Reader (Option Nat) := do
  modify fun r => { r with rest := dropBlanks r.rest }
  let digits ← takeWhile Char.isDigit (← budget)
  modify fun r => { r with rest := dropBlanks r.rest }
  skipSpaced
  if digits.isEmpty then return none
  let n := readDigits digits 0
  if n < twoTo 32 then return some n else failure

/-- The bounds of a repetition in braces, up to and with the closing one. -/
def counts : Reader (Nat × Option Nat) := do
  step
  let least ← count?
  if (← peek) = ',' then
    step
    if (← peek) = '\x7d' then
      match least with
      | some least => return (least, none)
      | none => failure
    else
      match least, ← count? with
      | some least, some most =>
        if (← peek) != '\x7d' || most < least then failure
        return (least, some most)
      | _, _ => failure
  else
    match least with
    | some n => if (← peek) = '\x7d' then return (n, some n) else failure
    | none => failure

/-- The part that a repetition applies to, and the items before it. -/
def repeatable : List Item → Reader (Nested × List Item)
  | .part p :: items => return (p, items)
  | _ => failure

/-- A part repeated; a question mark at hand asks for few matches. -/
def repeatedPart (p : Nested) (least : Nat) (most : Option Nat) : Reader Item := do
  let o ← options
  let few ← taken? "?"
  return .part ⟨p.pattern.repeated least most (few == o.sparing), p.depth + 1⟩

/-- The greatest depth of some patterns. -/
def deepest (ps : List Nested) : Nat :=
  ps.foldl (fun depth p => max depth p.depth) 0

/-- The pattern of a list of items, newest first. -/
def ofItems (items : List Item) : Nested :=
  let parts := items.reverse.map fun item => match item with
    | .part p => p
    | .setting => ⟨.empty, 0⟩
  match parts with
  | [p] => p
  | [] => ⟨.empty, 0⟩
  | ps => ⟨.inSequence (ps.map Nested.pattern), deepest ps + 1⟩

/-- The pattern of some branches. -/
def ofBranches (branches : List Nested) : Nested :=
  match branches with
  | [p] => p
  | ps => ⟨.anyOf (ps.map Nested.pattern), deepest ps + 1⟩

/-- A single character as the options have it. -/
def ofChar (o : PatternOptions) (c : Char) : Pattern :=
  ofSet (foldedSet o (.single c))

/-- The pattern of a single character or escape. -/
def ofAtom (o : PatternOptions) : Atom → Pattern
  | .literal c => ofChar o c
  | .set s => ofSet s
  | .assertion a => .assertion a

mutual

/-- Branches up to the end of a group or of the text. -/
def branches : Nat → Reader (List Nested)
  | 0 => failure
  | n + 1 => do
    let first ← branch n []
    if (← peek?) = some '|' then
      bump
      return first :: (← branches n)
    else return [first]

/-- The rest of a branch, after items that are newest first. -/
def branch : Nat → List Item → Reader Nested
  | 0, _ => failure
  | n + 1, items => do
    skipSpaced
    let o ← options
    let plain (p : Pattern) : Reader Nested := branch n (.part ⟨p, 0⟩ :: items)
    match ← peek? with
    | none => return ofItems items
    | some '|' => return ofItems items
    | some ')' => return ofItems items
    | some '(' => do
      let item ← parenthesized n
      branch n (item :: items)
    | some '[' => do
      let (s, depth) ← charClass n
      branch n (.part ⟨ofSet s, depth⟩ :: items)
    | some '.' => do
      bump
      plain (ofSet (← anySet o))
    | some '^' => do
      bump
      plain (.assertion (if o.lines then .lineStart o.crlf else .textStart))
    | some '$' => do
      bump
      plain (.assertion (if o.lines then .lineEnd o.crlf else .textEnd))
    | some '\\' => do
      let atom ← escape
      plain (ofAtom o atom)
    | some '\x7b' => do
      let (p, items) ← repeatable items
      let (least, most) ← counts
      step
      branch n ((← repeatedPart p least most) :: items)
    | some c => do
      let bounds : Option (Nat × Option Nat) := match c with
        | '?' => some (0, some 1)
        | '*' => some (0, none)
        | '+' => some (1, none)
        | _ => none
      match bounds with
      | some (least, most) => do
        let (p, items) ← repeatable items
        bump
        branch n ((← repeatedPart p least most) :: items)
      | none => do
        bump
        plain (ofChar o c)

/-- A group, or options set in passing; the opening parenthesis is at hand. -/
def parenthesized : Nat → Reader Item
  | 0 => failure
  | n + 1 => do
    bump
    skipSpaced
    let outer ← options
    let numbered : Reader Item := do
      let r ← get
      set { r with groups := r.groups + 1 }
      grouped n outer (some (r.groups + 1))
    if ← taken? "?=" then failure
    else if ← taken? "?!" then failure
    else if ← taken? "?<=" then failure
    else if ← taken? "?<!" then failure
    else if ← taken? "?P<" then
      groupName
      numbered
    else if ← taken? "?<" then
      groupName
      numbered
    else if ← taken? "?" then
      if (← peek) = ')' then failure
      let inner ← optionFlags (← budget) true [] outer
      if (← peek) = ')' then
        bump
        modify fun r => { r with options := inner }
        return .setting
      else
        bump
        modify fun r => { r with options := inner }
        grouped n outer none
    else numbered

/-- The branches of a group and its closing parenthesis; after it the outer options hold
again. -/
def grouped : Nat → PatternOptions → Option Nat → Reader Item
  | 0, _, _ => failure
  | n + 1, outer, index => do
    let p := ofBranches (← branches n)
    if (← peek) != ')' then failure
    bump
    modify fun r => { r with options := outer }
    match index with
    | some index => return .part ⟨.group index p.pattern, p.depth + 1⟩
    | none => return .part ⟨p.pattern, p.depth + 1⟩

end

/-- Why a text cannot be used as a pattern. -/
inductive ReadError where
  | malformed
  | tooLarge
deriving DecidableEq, Repr

namespace ReadError

/-- The message of the error. -/
def message : ReadError → String
  | malformed => "regex parse error"
  | tooLarge => "Compiled regex exceeds size limit of 10485760 bytes."

end ReadError

/-- How deep a pattern may nest. -/
def greatestDepth : Nat := 250

/-- The pattern that a text spells. -/
def read (text : String) : Except ReadError Pattern :=
  let chars := text.toList
  match (branches (4 * chars.length + 8)).run { rest := chars } with
  | some (found, r) =>
    let p := ofBranches found
    if !r.rest.isEmpty || greatestDepth < p.depth then .error .malformed
    else if !p.pattern.fits then .error .tooLarge
    else .ok p.pattern
  | none => .error .malformed

end Pattern

end RecordRules

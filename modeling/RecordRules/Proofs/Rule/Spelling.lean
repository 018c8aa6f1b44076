import Mathlib.Data.List.Chain
import RecordRules.Proofs.Number.Digits
import RecordRules.Proofs.Text.Pieces
import RecordRules.Rule.Scan

/-!
# Words of a rule and their spelling

A word is a token without its position.  `TokenKind.spelling` writes one: numbers in decimal,
strings between double quotes, with only the quote and the backslash escaped.  A text is
`Written` in words if it consists of their spellings with blanks anywhere between.

The scanner reads the spelling of a word as that word (`lexeme_spelling`), unless a name or a
literal stands right behind a name or a literal.  What a name or a number must be kept apart
from is only a character that would go on a name: all characters that go on numbers do.
-/

namespace RecordRules

/-! ## Spelling -/

/-- A character between the quotes of a string. -/
def spellChar (c : Char) : List Char :=
  if c = '"' ∨ c = '\\' then ['\\', c] else [c]

/-- The characters start and go on as names do. -/
def isNameText : List Char → Bool
  | [] => false
  | c :: cs => startsName c && cs.all continuesName

/-- A name that scanners read as such: it is written as names are, and is not one of the
two that are literals. -/
def IsName (name : String) : Prop :=
  isNameText name.toList = true ∧ name ≠ "true" ∧ name ≠ "false"

instance (name : String) : Decidable (IsName name) :=
  inferInstanceAs (Decidable (_ ∧ _))

namespace TokenKind

/-- How a word is written. -/
def spelling : TokenKind → List Char
  | ident name => name.toList
  | integer value => integerChars value.toInt
  | float value => value.layout .plain
  | string value => '"' :: (value.toList.flatMap spellChar ++ ['"'])
  | boolean value => if value then "true".toList else "false".toList
  | .open => ['(']
  | close => [')']
  | comma => [',']
  | .and => ['&', '&']
  | .or => ['|', '|']
  | equal => ['=', '=']
  | ending => []

/-- The word can be written so that it is read again.  Floating-point numbers are left
out: one without fraction reads as an integer. -/
def Spellable : TokenKind → Prop
  | ident name => IsName name
  | float _ => False
  | ending => False
  | _ => True

/-- The word is neither a name nor a literal. -/
def Separates : TokenKind → Prop
  | .open | close | comma | .and | .or | equal => True
  | _ => False

end TokenKind

/-- The text consists of the words, in order, with blanks before, between and after them. -/
inductive Written : List TokenKind → List Char → Prop
  | nil {blanks : List Char} : (∀ c ∈ blanks, isBlank c = true) → Written [] blanks
  | cons {blanks text : List Char} {k : TokenKind} {ks : List TokenKind} :
    (∀ c ∈ blanks, isBlank c = true) → k.Spellable → Written ks text →
    Written (k :: ks) (blanks ++ (k.spelling ++ text))

/-- Of two words side by side, one is neither a name nor a literal. -/
def Apart (ks : List TokenKind) : Prop :=
  ks.IsChain fun k k' => k.Separates ∨ k'.Separates

/-! ## Texts of several words -/

theorem written_blanks {ks : List TokenKind} {blanks text : List Char} (written : Written ks text)
    (allBlank : ∀ c ∈ blanks, isBlank c = true) : Written ks (blanks ++ text) := by
  cases written with
  | nil more => exact .nil (List.forall_mem_append.mpr ⟨allBlank, more⟩)
  | cons more spellable others =>
    rw [← List.append_assoc]
    exact .cons (List.forall_mem_append.mpr ⟨allBlank, more⟩) spellable others

theorem written_append {ks ks' : List TokenKind} {text text' : List Char}
    (written : Written ks text) (written' : Written ks' text') :
    Written (ks ++ ks') (text ++ text') := by
  induction written with
  | nil blanks => exact written_blanks written' blanks
  | cons blanks spellable _ ih =>
    rw [List.append_assoc, List.append_assoc]
    exact .cons blanks spellable ih

theorem written_cons {k : TokenKind} {ks : List TokenKind} {text : List Char}
    (spellable : k.Spellable) (others : Written ks text) : Written (k :: ks) (k.spelling ++ text) :=
  .cons (List.forall_mem_nil _) spellable others

theorem written_singleton {k : TokenKind} (spellable : k.Spellable) : Written [k] k.spelling := by
  have written := written_cons spellable (.nil (List.forall_mem_nil _))
  rwa [List.append_nil] at written

/-- A word with a blank on either side. -/
theorem written_spaced {k : TokenKind} (spellable : k.Spellable) :
    Written [k] (' ' :: (k.spelling ++ [' '])) := by
  have blank : ∀ c ∈ [' '], isBlank c = true := List.all_eq_true.mp (by decide)
  exact .cons blank spellable (.nil blank)

/-! ## What may follow a name or a number -/

/-- The codes of the blanks. -/
def blankCodes : List Nat :=
  [0x09, 0x0a, 0x0b, 0x0c, 0x0d, 0x20, 0x85, 0xa0, 0x1680, 0x2000, 0x2001, 0x2002, 0x2003, 0x2004,
    0x2005, 0x2006, 0x2007, 0x2008, 0x2009, 0x200a, 0x2028, 0x2029, 0x202f, 0x205f, 0x3000]

theorem mem_blankCodes {c : Char} (blank : isBlank c = true) : c.toNat ∈ blankCodes := by
  simp only [isBlank, blankRanges, CodeRanges.Covers, List.any_cons, List.any_nil, Bool.or_eq_true,
    Bool.and_eq_true, decide_eq_true_eq, beq_iff_eq, Bool.or_false] at blank
  simp only [blankCodes, List.mem_cons, List.not_mem_nil, or_false]
  rcases blank with (rfl | blank) | blank
  · exact .inr (.inr (.inr (.inr (.inr (.inl rfl)))))
  · omega
  · omega

theorem not_continuesName_of_blankCode :
    ∀ code ∈ blankCodes, continuesName (Char.ofNat code) = false := by
  decide +kernel

/-- No blank goes on a name. -/
theorem not_continuesName_of_blank {c : Char} (blank : isBlank c = true) :
    continuesName c = false := by
  have table := not_continuesName_of_blankCode c.toNat (mem_blankCodes blank)
  rwa [Char.ofNat_toNat] at table

/-- The text does not go on a name. -/
def EndsName (cs : List Char) : Prop :=
  ∀ c rest, cs = c :: rest → continuesName c = false

theorem endsName_cons {c : Char} {cs : List Char} (stops : continuesName c = false) :
    EndsName (c :: cs) := by
  rintro _ _ ⟨⟩
  exact stops

/-- Neither a blank nor a word that is no name and no literal goes on a name. -/
theorem endsName_written {ks : List TokenKind} {text : List Char} (written : Written ks text)
    (separated : ∀ k ∈ ks.head?, k.Separates) : EndsName text := by
  cases written with
  | nil blanks =>
    rintro c rest rfl
    exact not_continuesName_of_blank (blanks c List.mem_cons_self)
  | @cons blanks text k ks allBlank spellable written =>
    have separates : k.Separates := separated k rfl
    cases blanks with
    | cons c blanks =>
      exact endsName_cons (not_continuesName_of_blank (allBlank c List.mem_cons_self))
    | nil =>
      cases k with
      | «open» | close | comma | and | or | equal => exact endsName_cons (by decide)
      | ident _ | integer _ | float _ | string _ | boolean _ | ending => exact separates.elim

theorem not_blank_of_continuesName {c : Char} (goes : continuesName c = true) :
    isBlank c = false := by
  by_contra blank
  rw [not_continuesName_of_blank (by simpa using blank)] at goes
  cases goes

/-! ## Names -/

theorem takeWhile_append_of_ends {name rest : List Char} (goes : ∀ c ∈ name, continuesName c = true)
    (ends : EndsName rest) : (name ++ rest).takeWhile continuesName = name := by
  refine (span_append goes fun c head => ?_).1
  obtain ⟨rest, rfl⟩ := List.head?_eq_some_iff.mp head
  exact ends c rest rfl

/-- The characters that start words other than names and numbers without a sign. -/
def marks : List Char :=
  ['(', ')', ',', '&', '|', '=', '"', '\'', '-', '+']

theorem not_startsName_of_mark : ∀ c ∈ marks, startsName c = false := by
  have none : marks.all (fun c => !startsName c) = true := by decide
  intro c mem
  simpa using List.all_eq_true.mp none c mem

theorem not_startsName_of_digit {c : Char} : c.isDigit = true → startsName c = false :=
  of_isDigit (p := fun c => startsName c = false) (by decide)

theorem continuesName_of_digit {c : Char} : c.isDigit = true → continuesName c = true :=
  of_isDigit (p := fun c => continuesName c = true) (by decide)

theorem lexeme_name {position : Nat} {c : Char} {cs rest : List Char} (starts : startsName c = true)
    (goes : ∀ c ∈ cs, continuesName c = true) (ends : EndsName rest) :
    lexeme position c (cs ++ rest) = .ok ⟨nameKind (c :: cs), cs.length + 1⟩ := by
  have other : ∀ mark ∈ marks, c ≠ mark := by
    rintro mark mem rfl
    rw [not_startsName_of_mark c mem] at starts
    cases starts
  have no_digit : c.isDigit = false := by
    by_contra digit
    rw [not_startsName_of_digit (by simpa using digit)] at starts
    cases starts
  simp only [marks, List.forall_mem_cons, List.not_mem_nil, false_implies, implies_true,
    and_true] at other
  rcases other with ⟨open_, close, comma, and, or, equal, quote, apostrophe, minus, plus⟩
  simp only [lexeme, open_, close, comma, and, or, equal, quote, apostrophe, minus, plus, no_digit,
    starts, takeWhile_append_of_ends goes ends, decide_false, Bool.false_and, Bool.or_false,
    Bool.false_eq_true, if_false, if_true]

theorem continuesName_of_startsName {c : Char} (starts : startsName c = true) :
    continuesName c = true := by
  rw [startsName, Bool.or_eq_true] at starts
  rw [continuesName]
  rcases starts with letter | underscore
  · rw [letter]
    rfl
  · rw [underscore]
    simp

theorem IsName.toList {name : String} (is : IsName name) : ∃ c cs, name.toList = c :: cs ∧
    startsName c = true ∧ ∀ c ∈ cs, continuesName c = true := by
  have chars := is.1
  cases text : name.toList with
  | nil =>
    rw [text] at chars
    cases chars
  | cons c cs =>
    rw [text, isNameText, Bool.and_eq_true, List.all_eq_true] at chars
    exact ⟨c, cs, rfl, chars⟩

theorem nameKind_of_isName {name : String} (is : IsName name) :
    nameKind name.toList = .ident name := by
  rw [nameKind, String.ofList_toList]
  split
  · exact absurd rfl is.2.1
  · exact absurd rfl is.2.2
  · rfl

/-! ## Numbers -/

theorem numberLength_digits {digits rest : List Char} (all : ∀ c ∈ digits, c.isDigit = true)
    (ends : EndsName rest) : numberLength false (digits ++ rest) = (digits.length, false) := by
  induction digits with
  | nil =>
    cases rest with
    | nil => rfl
    | cons c rest =>
      have stops := ends c rest rfl
      have no_digit : c.isDigit = false := by
        by_contra digit
        rw [continuesName_of_digit (by simpa using digit)] at stops
        cases stops
      have other : ∀ mark ∈ ['_', '.', 'e', 'E'], c ≠ mark := by
        rintro mark mem rfl
        have goes : ∀ c ∈ ['_', '.', 'e', 'E'], continuesName c = true :=
          List.all_eq_true.mp (by decide)
        rw [goes c mem] at stops
        cases stops
      simp only [List.forall_mem_cons, List.not_mem_nil, false_implies, implies_true,
        and_true] at other
      rcases other with ⟨underscore, point, small, capital⟩
      rw [List.nil_append, numberLength.eq_def]
      simp only [no_digit, underscore, point, small, capital,
        decide_false, Bool.or_false, Bool.false_and, Bool.false_eq_true, if_false, List.length_nil]
  | cons c digits ih =>
    rcases List.forall_mem_cons.mp all with ⟨digit, digits⟩
    rw [List.cons_append, numberLength.eq_def]
    simp only [digit, Bool.true_or, if_true, ih digits, List.length_cons]

/-- The sign and the digits of an integer: no underscores to leave out. -/
theorem filter_integerChars (n : Int) :
    (integerChars n).filter (· ≠ '_') = integerChars n := by
  have other {c : Char} : c.isDigit = true → decide (c ≠ '_') = true :=
    of_isDigit (p := fun c => decide (c ≠ '_') = true) (by decide)
  obtain ⟨c, digits, is, all, first⟩ := integerChars_cons n
  rw [List.filter_eq_self, is]
  refine List.forall_mem_cons.mpr ⟨?_, fun d mem => other (all d mem)⟩
  rcases first with digit | ⟨rfl, -⟩
  · exact other digit
  · decide

theorem numberKind_integerChars (n : Int64) :
    numberKind (integerChars n.toInt) false = some (.integer n) := by
  rw [numberKind, filter_integerChars, if_neg (by simp), readInteger_integerChars,
    Option.bind_some, int64?_toInt, Option.map_some]

theorem numberLexeme_integer (position : Nat) {c : Char} {digits rest : List Char} {n : Int64}
    (is : integerChars n.toInt = c :: digits) (all : ∀ c ∈ digits, c.isDigit = true)
    (ends : EndsName rest) :
    numberLexeme position c (digits ++ rest) = .ok ⟨.integer n, digits.length + 1⟩ := by
  have kind := numberKind_integerChars n
  rw [is] at kind
  simp only [numberLexeme, numberLength_digits all ends, List.take_left, kind]

theorem lexeme_digit {position : Nat} {c : Char} (digit : c.isDigit = true) (cs : List Char) :
    lexeme position c cs = numberLexeme position c cs := by
  have other : ∀ mark ∈ marks, c ≠ mark := by
    rintro mark mem rfl
    have no_digit : marks.all (fun c => !c.isDigit) = true := by decide
    have here := List.all_eq_true.mp no_digit c mem
    rw [digit] at here
    cases here
  simp only [marks, List.forall_mem_cons, List.not_mem_nil, false_implies, implies_true,
    and_true] at other
  rcases other with ⟨open_, close, comma, and, or, equal, quote, apostrophe, minus, plus⟩
  simp only [lexeme, open_, close, comma, and, or, equal, quote, apostrophe, minus, plus, digit,
    decide_false, Bool.false_and, Bool.or_false, Bool.false_eq_true, if_false, if_true]

theorem lexeme_minus {position : Nat} {digits : List Char} (all : ∀ c ∈ digits, c.isDigit = true)
    (some_digit : digits ≠ []) (rest : List Char) :
    lexeme position '-' (digits ++ rest) = numberLexeme position '-' (digits ++ rest) := by
  cases digits with
  | nil => exact absurd rfl some_digit
  | cons d digits =>
    have starts : startsWithDigit (d :: digits ++ rest) = true := all d List.mem_cons_self
    rw [lexeme, starts]
    rfl

theorem lexeme_integer {n : Int64} {c : Char} {digits : List Char}
    (is : integerChars n.toInt = c :: digits) {rest : List Char} (ends : EndsName rest)
    (position : Nat) :
    lexeme position c (digits ++ rest) = .ok ⟨.integer n, digits.length + 1⟩ := by
  obtain ⟨c', digits', is', all, first⟩ := integerChars_cons n.toInt
  rcases List.cons.inj (is'.symm.trans is) with ⟨rfl, rfl⟩
  rw [← numberLexeme_integer position is all ends]
  rcases first with digit | ⟨rfl, some_digit⟩
  · exact lexeme_digit digit _
  · exact lexeme_minus all some_digit rest

/-! ## Strings -/

theorem stringBody_quote (quote : Char) (cs : List Char) :
    stringBody quote (quote :: cs) = some ([], 1) := by
  rw [stringBody.eq_def]
  exact if_pos rfl

theorem stringBody_escape {quote : Char} (other : '\\' ≠ quote) (e : Char) (cs : List Char) :
    stringBody quote ('\\' :: e :: cs) =
      (stringBody quote cs).map fun body => (resolveEscape e :: body.1, body.2 + 2) := by
  rw [stringBody.eq_def]
  exact (if_neg other).trans (if_pos rfl)

theorem stringBody_plain {quote c : Char} (other : c ≠ quote) (plain : c ≠ '\\') (cs : List Char) :
    stringBody quote (c :: cs) =
      (stringBody quote cs).map fun body => (c :: body.1, body.2 + 1) := by
  rw [stringBody.eq_def]
  exact (if_neg other).trans (if_neg plain)

theorem resolveEscape_of_marked {c : Char} (marked : c = '"' ∨ c = '\\') : resolveEscape c = c := by
  rcases marked with rfl | rfl <;> rfl

/-- Between quotes of a kind these characters stand for a value: a backslash takes away the meaning
of the character behind it, or gives it one. -/
inductive SpellsString (quote : Char) : List Char → List Char → Prop
  | nil : SpellsString quote [] []
  | plain {c : Char} {cs value : List Char} : c ≠ quote → c ≠ '\\' → SpellsString quote cs value →
    SpellsString quote (c :: cs) (c :: value)
  | escape {c : Char} {cs value : List Char} : SpellsString quote cs value →
    SpellsString quote ('\\' :: c :: cs) (resolveEscape c :: value)

theorem SpellsString.append {quote : Char} {cs value cs' value' : List Char}
    (front : SpellsString quote cs value) (back : SpellsString quote cs' value') :
    SpellsString quote (cs ++ cs') (value ++ value') := by
  induction front with
  | nil => exact back
  | plain other plain _ ih => exact .plain other plain ih
  | escape _ ih => exact .escape ih

/-- A string that is spelled is read up to its closing quote, whatever follows. -/
theorem SpellsString.read {quote : Char} {cs value : List Char}
    (spells : SpellsString quote cs value) (other : '\\' ≠ quote) (rest : List Char) :
    stringBody quote (cs ++ quote :: rest) = some (value, cs.length + 1) := by
  induction spells with
  | nil => exact stringBody_quote quote rest
  | plain other plain _ ih => rw [List.cons_append, stringBody_plain other plain, ih]; rfl
  | escape _ ih => rw [List.cons_append, List.cons_append, stringBody_escape other, ih]; rfl

/-- What is read as a string is spelled, and its closing quote stands behind it. -/
theorem spells_of_stringBody {quote : Char} (cs : List Char) {value : List Char} {n : Nat}
    (read : stringBody quote cs = some (value, n)) :
    ∃ body rest, cs = body ++ quote :: rest ∧ SpellsString quote body value ∧
      n = body.length + 1 := by
  match cs with
  | [] => cases read
  | c :: cs =>
    by_cases quoted : c = quote
    · rw [quoted, stringBody_quote] at read
      cases read
      exact ⟨[], cs, by rw [quoted, List.nil_append], .nil, rfl⟩
    · by_cases escape : c = '\\'
      · subst escape
        match cs with
        | [] =>
          rw [stringBody.eq_def] at read
          simp [quoted] at read
        | e :: cs =>
          rw [stringBody_escape quoted] at read
          obtain ⟨⟨value', n'⟩, inner, same⟩ := Option.map_eq_some_iff.mp read
          cases same
          obtain ⟨body, rest, rfl, spells, rfl⟩ := spells_of_stringBody cs inner
          exact ⟨'\\' :: e :: body, rest, rfl, .escape spells, rfl⟩
      · rw [stringBody_plain quoted escape] at read
        obtain ⟨⟨value', n'⟩, inner, same⟩ := Option.map_eq_some_iff.mp read
        cases same
        obtain ⟨body, rest, rfl, spells, rfl⟩ := spells_of_stringBody cs inner
        exact ⟨c :: body, rest, rfl, .plain quoted escape spells, rfl⟩

theorem spellsString_flatMap_spellChar (value : List Char) :
    SpellsString '"' (value.flatMap spellChar) value := by
  induction value with
  | nil => exact .nil
  | cons c value ih =>
    rw [List.flatMap_cons, spellChar]
    split
    · next marked =>
      have spells := SpellsString.escape (c := c) ih
      rwa [resolveEscape_of_marked marked] at spells
    · next plain =>
      rw [not_or] at plain
      exact .plain plain.1 plain.2 ih

theorem lexeme_string (position : Nat) (value : String) (rest : List Char) :
    lexeme position '"' (value.toList.flatMap spellChar ++ '"' :: rest) =
      .ok ⟨.string value, (value.toList.flatMap spellChar).length + 2⟩ := by
  have body := (spellsString_flatMap_spellChar value.toList).read (by decide) rest
  simp [lexeme, body]

/-! ## Words -/

/-- The spelling of a word is read as that word, if what follows a name or a literal does
not go on a name. -/
theorem lexeme_spelling {k : TokenKind} (spellable : k.Spellable) {rest : List Char}
    (ends : k.Separates ∨ EndsName rest) (position : Nat) :
    ∃ c cs, k.spelling = c :: cs ∧ isBlank c = false ∧
      lexeme position c (cs ++ rest) = .ok ⟨k, k.spelling.length⟩ := by
  cases k with
  | «open» => exact ⟨_, _, rfl, by decide, rfl⟩
  | close => exact ⟨_, _, rfl, by decide, rfl⟩
  | comma => exact ⟨_, _, rfl, by decide, rfl⟩
  | and => exact ⟨_, _, rfl, by decide, rfl⟩
  | or => exact ⟨_, _, rfl, by decide, rfl⟩
  | equal => exact ⟨_, _, rfl, by decide, rfl⟩
  | float _ => exact spellable.elim
  | ending => exact spellable.elim
  | string value =>
    refine ⟨'"', _, rfl, by decide, ?_⟩
    rw [List.append_assoc]
    refine (lexeme_string position value rest).trans ?_
    simp [TokenKind.spelling]
  | ident name =>
    have stops : EndsName rest := ends.resolve_left id
    obtain ⟨c, cs, is, starts, goes⟩ := IsName.toList spellable
    refine ⟨c, cs, is, not_blank_of_continuesName (continuesName_of_startsName starts), ?_⟩
    rw [lexeme_name starts goes stops, ← is, nameKind_of_isName spellable, TokenKind.spelling, is,
      List.length_cons]
  | boolean value =>
    have stops : EndsName rest := ends.resolve_left id
    cases value with
    | true =>
      exact ⟨'t', ['r', 'u', 'e'], rfl, by decide,
        lexeme_name (by decide) (List.all_eq_true.mp (by decide)) stops⟩
    | false =>
      exact ⟨'f', ['a', 'l', 's', 'e'], rfl, by decide,
        lexeme_name (by decide) (List.all_eq_true.mp (by decide)) stops⟩
  | integer value =>
    have stops : EndsName rest := ends.resolve_left id
    obtain ⟨c, cs, is, -, first⟩ := integerChars_cons value.toInt
    have not_blank : isBlank c = false := by
      rcases first with digit | ⟨rfl, -⟩
      · exact not_blank_of_continuesName (continuesName_of_digit digit)
      · decide
    refine ⟨c, cs, is, not_blank, ?_⟩
    rw [lexeme_integer is stops, TokenKind.spelling, is, List.length_cons]

end RecordRules

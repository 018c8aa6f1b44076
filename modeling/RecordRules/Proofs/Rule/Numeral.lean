import RecordRules.Proofs.Number.Decimal
import RecordRules.Proofs.Rule.Scanning

/-!
# Number literals

The characters that the scanner takes for a number are the longest number literal at the start of
the text (`longest_of_numberLength`).  Underscores may stand anywhere behind the first digit, and
exponent marks may be repeated, so a literal need not denote anything: it denotes an integer of 64
bits or the double nearest to a decimal, according to what it spells without the underscores, and
`numberKind` finds just that (`numberKind_eq_some_iff`).
-/

namespace RecordRules

/-! ## Literals -/

/-- What may stand behind the first digit of a number literal: digits and underscores, one point in
front of a digit, and exponent marks, with a sign or without.  There is no point behind another
point or a mark, which is what `float` tells of the part before. -/
inductive NumeralTail : Bool → List Char → Prop
  | nil {float : Bool} : NumeralTail float []
  | digit {float : Bool} {c : Char} {cs : List Char} : c.isDigit = true ∨ c = '_' →
    NumeralTail float cs → NumeralTail float (c :: cs)
  | point {d : Char} {cs : List Char} : d.isDigit = true → NumeralTail true (d :: cs) →
    NumeralTail false ('.' :: d :: cs)
  | mark {float : Bool} {c : Char} {cs : List Char} : c = 'e' ∨ c = 'E' → NumeralTail true cs →
    NumeralTail float (c :: cs)
  | signedMark {float : Bool} {c s : Char} {cs : List Char} : c = 'e' ∨ c = 'E' →
    s = '-' ∨ s = '+' → NumeralTail true cs → NumeralTail float (c :: s :: cs)

/-- A number literal: a digit, perhaps after a sign, and what may stand behind it. -/
inductive IsNumeral : List Char → Prop
  | mk {c : Char} {cs : List Char} : StartsNumeral c cs → NumeralTail false cs → IsNumeral (c :: cs)

/-- The longest number literal at the start of a text. -/
structure LongestNumeral (literal text : List Char) : Prop where
  numeral : IsNumeral literal
  front : literal <+: text
  longest : ∀ {other}, IsNumeral other → other <+: text → other.length ≤ literal.length

/-- The literal has a point or an exponent mark. -/
def marksFloat (literal : List Char) : Bool :=
  literal.any fun c => c = '.' || c = 'e' || c = 'E'

/-- The literal, underscores left out. -/
def withoutUnderscores (literal : List Char) : List Char :=
  literal.filter (· ≠ '_')

theorem LongestNumeral.unique {literal literal' text : List Char}
    (is : LongestNumeral literal text) (is' : LongestNumeral literal' text) :
    literal = literal' := by
  have length : literal.length = literal'.length :=
    Nat.le_antisymm (is'.longest is.numeral is.front) (is.longest is'.numeral is'.front)
  exact (List.prefix_of_prefix_length_le is.front is'.front length.le).eq_of_length length

theorem LongestNumeral.ne_nil {literal text : List Char} (is : LongestNumeral literal text) :
    text ≠ [] := by
  rintro rfl
  have none := is.numeral
  rw [List.prefix_nil.mp is.front] at none
  cases none

/-! ## Where a literal ends -/

section length

variable {float : Bool} {c : Char} {cs : List Char}

theorem marksFloat_cons (c : Char) (cs : List Char) :
    marksFloat (c :: cs) = ((c = '.' || c = 'e' || c = 'E') || marksFloat cs) :=
  rfl

theorem marksFloat_digit (goes : c.isDigit = true ∨ c = '_') (cs : List Char) :
    marksFloat (c :: cs) = marksFloat cs := by
  have no_mark : ¬(c = '.' ∨ c = 'e' ∨ c = 'E') := by
    rintro (rfl | rfl | rfl) <;> exact absurd goes (by decide)
  simp only [not_or] at no_mark
  simp [marksFloat_cons, no_mark]

theorem marksFloat_mark (mark : c = 'e' ∨ c = 'E') (cs : List Char) :
    marksFloat (c :: cs) = true := by
  rcases mark with rfl | rfl <;> rfl

/-- A sign does not stand behind the first digit, except after a mark. -/
theorem NumeralTail.unsigned (tail : NumeralTail float cs) : Unsigned cs := by
  rintro s rest rfl
  by_contra sign
  rw [Bool.not_eq_false] at sign
  have sign : s = '-' ∨ s = '+' := by simpa using sign
  have other : ¬(s.isDigit = true ∨ s = '_') ∧ s ≠ '.' ∧ ¬(s = 'e' ∨ s = 'E') := by
    rcases sign with rfl | rfl <;> decide
  obtain ⟨digit, point, mark⟩ := other
  cases tail with
  | digit goes _ => exact digit goes
  | point _ _ => exact point rfl
  | mark is _ => exact mark is
  | signedMark is _ _ => exact mark is

/-- What a number takes may stand behind its first digit. -/
theorem tail_of_numberLength (float : Bool) (cs : List Char) :
    NumeralTail float (cs.take (numberLength float cs).1) := by
  match cs with
  | [] => exact .nil
  | c :: cs =>
    rcases numberLength_cases float c cs with digit | ⟨rfl, rfl, digit⟩ | mark | ⟨-, is⟩
    · rw [numberLength_digit digit, List.take_succ_cons]
      exact .digit (by simpa using digit) (tail_of_numberLength float cs)
    · have tail := tail_of_numberLength true cs
      rw [numberLength_point digit, List.take_succ_cons]
      match cs with
      | d :: cs =>
        have goes : (d.isDigit || d = '_') = true := by simp [show d.isDigit = true from digit]
        rw [numberLength_digit goes, List.take_succ_cons] at tail ⊢
        exact .point digit tail
    · rcases unsigned_or_signed cs with no_sign | ⟨s, cs, rfl, sign⟩
      · rw [numberLength_mark mark no_sign, List.take_succ_cons]
        exact .mark mark (tail_of_numberLength true cs)
      · rw [numberLength_sign mark sign, List.take_succ_cons, List.take_succ_cons]
        exact .signedMark mark (by simpa using sign) (tail_of_numberLength true cs)
    · rw [is]
      exact .nil

/-- A point or a mark makes it a floating-point number. -/
theorem float_of_numberLength (float : Bool) (cs : List Char) :
    (numberLength float cs).2 = (float || marksFloat (cs.take (numberLength float cs).1)) := by
  match cs with
  | [] => exact (Bool.or_false _).symm
  | c :: cs =>
    rcases numberLength_cases float c cs with digit | ⟨rfl, rfl, digit⟩ | mark | ⟨-, is⟩
    · rw [numberLength_digit digit, List.take_succ_cons, marksFloat_digit (by simpa using digit)]
      exact float_of_numberLength float cs
    · rw [numberLength_point digit, List.take_succ_cons]
      exact (float_of_numberLength true cs).trans (Bool.true_or _)
    · rcases unsigned_or_signed cs with no_sign | ⟨s, cs, rfl, sign⟩
      · rw [numberLength_mark mark no_sign, List.take_succ_cons, marksFloat_mark mark,
          float_of_numberLength true cs, Bool.true_or, Bool.or_true]
      · rw [numberLength_sign mark sign, List.take_succ_cons, marksFloat_mark mark,
          float_of_numberLength true cs, Bool.true_or, Bool.or_true]
    · rw [is]
      exact (Bool.or_false _).symm

/-- No more of the text may stand there. -/
theorem NumeralTail.length_le (tail : NumeralTail float cs) (rest : List Char) :
    cs.length ≤ (numberLength float (cs ++ rest)).1 := by
  induction tail with
  | nil => exact Nat.zero_le _
  | digit goes _ ih =>
    rw [List.cons_append, numberLength_digit (by simpa using goes)]
    exact Nat.succ_le_succ ih
  | @point d cs digit _ ih =>
    have starts : startsWithDigit (d :: cs ++ rest) = true := digit
    rw [List.cons_append, numberLength_point starts]
    exact Nat.succ_le_succ ih
  | @mark _ _ cs mark tail ih =>
    rw [List.cons_append]
    rcases unsigned_or_signed (cs ++ rest) with no_sign | ⟨s, others, is, sign⟩
    · rw [numberLength_mark mark no_sign]
      exact Nat.succ_le_succ ih
    · rw [is, numberLength_sign mark sign]
      cases cs with
      | nil => exact Nat.succ_le_succ (Nat.zero_le _)
      | cons s' cs =>
        cases is
        exact absurd (tail.unsigned s cs rfl) (by simp [sign])
  | signedMark mark sign _ ih =>
    rw [List.cons_append, List.cons_append, numberLength_sign mark (by simpa using sign)]
    exact Nat.add_le_add_right ih 2

theorem StartsNumeral.of_prefix {taken : List Char} (starts : StartsNumeral c taken)
    (front : taken <+: cs) : StartsNumeral c cs := by
  obtain ⟨rest, rfl⟩ := front
  refine starts.imp_right (And.imp_right fun digit => ?_)
  cases taken with
  | nil => cases digit
  | cons d taken => exact digit

/-- The longest literal at the start of a text is what the number takes. -/
theorem longest_of_numberLength (starts : StartsNumeral c cs) :
    LongestNumeral (c :: cs.take (numberLength false cs).1) (c :: cs) where
  numeral := by
    refine .mk (starts.imp_right (And.imp_right fun digit => ?_)) (tail_of_numberLength false cs)
    cases cs with
    | nil => cases digit
    | cons d cs =>
      rw [numberLength_digit (by simp [show d.isDigit = true from digit]), List.take_succ_cons]
      exact digit
  front := by
    rw [List.cons_prefix_cons]
    exact ⟨rfl, List.take_prefix _ _⟩
  longest := by
    rintro _ ⟨-, tail⟩ front
    obtain ⟨-, rest, is⟩ := List.cons_prefix_cons.mp front
    have bound := tail.length_le rest
    rw [is] at bound
    rw [List.length_cons, List.length_cons, List.length_take_of_le (numberLength_le false cs)]
    exact Nat.succ_le_succ bound

theorem LongestNumeral.starts {literal : List Char} (is : LongestNumeral literal (c :: cs)) :
    StartsNumeral c cs := by
  obtain ⟨⟨starts, -⟩, front, -⟩ := is
  obtain ⟨rfl, taken⟩ := List.cons_prefix_cons.mp front
  exact starts.of_prefix taken

theorem LongestNumeral.eq_take {literal : List Char} (is : LongestNumeral literal (c :: cs)) :
    literal = c :: cs.take (numberLength false cs).1 :=
  is.unique (longest_of_numberLength is.starts)

end length

/-! ## What a literal denotes -/

section denotes

variable {float : Bool} {c : Char} {cs literal : List Char}

/-- A literal without point and mark denotes the integer that it spells, if that fits; one with
them the double nearest to the decimal that it spells, if it spells one. -/
inductive NumeralDenotes (literal : List Char) : TokenKind → Prop
  | integer {n : Int64} : marksFloat literal = false →
    SpellsInteger true (withoutUnderscores literal) n.toInt → NumeralDenotes literal (.integer n)
  | float {negative : Bool} {digits : Nat} {exponent : Int} : marksFloat literal = true →
    SpellsDecimal (withoutUnderscores literal) negative digits exponent →
    NumeralDenotes literal (.float (.ofDecimal negative digits exponent))

theorem withoutUnderscores_cons (shown : c ≠ '_') (cs : List Char) :
    withoutUnderscores (c :: cs) = c :: withoutUnderscores cs :=
  List.filter_cons_of_pos (by simpa using shown)

theorem ne_underscore_of_digit (digit : c.isDigit = true) : c ≠ '_' := by
  rintro rfl
  cases digit

/-- Without point and mark there are only digits behind the first one. -/
theorem NumeralTail.digits (tail : NumeralTail float cs) (whole : marksFloat cs = false) :
    ∀ c ∈ withoutUnderscores cs, c.isDigit = true := by
  induction tail with
  | nil => exact List.forall_mem_nil _
  | @digit _ c cs goes _ ih =>
    rw [marksFloat_digit goes] at whole
    rcases goes with digit | rfl
    · rw [withoutUnderscores_cons (ne_underscore_of_digit digit)]
      exact List.forall_mem_cons.mpr ⟨digit, ih whole⟩
    · exact ih whole
  | point _ _ _ => cases whole
  | mark is _ _ =>
    rw [marksFloat_mark is] at whole
    cases whole
  | signedMark is _ _ _ =>
    rw [marksFloat_mark is] at whole
    cases whole

/-- A literal without point and mark spells an integer. -/
theorem IsNumeral.spellsInteger (numeral : IsNumeral literal) (whole : marksFloat literal = false) :
    ∃ n, SpellsInteger true (withoutUnderscores literal) n := by
  obtain ⟨digit | ⟨sign, digit⟩, tail⟩ := numeral
  · rw [marksFloat_digit (.inl digit)] at whole
    rw [withoutUnderscores_cons (ne_underscore_of_digit digit)]
    exact ⟨_, .plain ⟨List.cons_ne_nil _ _, List.forall_mem_cons.mpr ⟨digit, tail.digits whole⟩⟩⟩
  · next c cs =>
    match cs, digit with
    | d :: cs, digit =>
      have whole' : marksFloat (d :: cs) = false := (Bool.or_eq_false_iff.mp whole).2
      have digits := tail.digits whole'
      have some : withoutUnderscores (d :: cs) ≠ [] := by
        rw [withoutUnderscores_cons (ne_underscore_of_digit digit)]
        exact List.cons_ne_nil _ _
      rcases sign with rfl | rfl
      · exact ⟨_, .minus rfl ⟨some, digits⟩⟩
      · exact ⟨_, .plus ⟨some, digits⟩⟩

/-- A point has digits behind it. -/
theorem NumeralTail.fraction (tail : NumeralTail float cs) {rest : List Char}
    (point : (withoutUnderscores cs).dropWhile Char.isDigit = '.' :: rest) :
    rest.takeWhile Char.isDigit ≠ [] := by
  induction tail with
  | nil => cases point
  | @digit _ c cs goes _ ih =>
    rcases goes with digit | rfl
    · rw [withoutUnderscores_cons (ne_underscore_of_digit digit),
        List.dropWhile_cons_of_pos digit] at point
      exact ih point
    · exact ih point
  | @point d cs digit _ _ =>
    rw [withoutUnderscores_cons (by decide),
      withoutUnderscores_cons (ne_underscore_of_digit digit)] at point
    cases point
    rw [List.takeWhile_cons_of_pos digit]
    exact List.cons_ne_nil _ _
  | mark is _ _ =>
    rcases is with rfl | rfl <;> cases point
  | signedMark is _ _ _ =>
    rcases is with rfl | rfl <;> cases point

/-- A literal that is read spells a decimal. -/
theorem IsNumeral.spellsDecimal (numeral : IsNumeral literal) {x : Double}
    (read : Binary.read? (withoutUnderscores literal) = some x) :
    ∃ negative digits exponent,
      SpellsDecimal (withoutUnderscores literal) negative digits exponent ∧
        x = .ofDecimal negative digits exponent := by
  have starts (d : Char) (cs : List Char) (digit : d.isDigit = true) :
      (withoutUnderscores (d :: cs)).takeWhile Char.isDigit ≠ [] := by
    rw [withoutUnderscores_cons (ne_underscore_of_digit digit), List.takeWhile_cons_of_pos digit]
    exact List.cons_ne_nil _ _
  obtain ⟨digit | ⟨sign, digit⟩, tail⟩ := numeral
  · next c cs =>
    have no_sign : splitSign (withoutUnderscores (c :: cs)) =
        (false, withoutUnderscores (c :: cs)) := by
      rw [withoutUnderscores_cons (ne_underscore_of_digit digit)]
      exact splitSign_of_digit digit _
    have tail : NumeralTail false (c :: cs) := .digit (.inl digit) tail
    refine Binary.spells_of_read? read ?_ ?_
    · rw [no_sign]
      exact starts c cs digit
    · rw [no_sign]
      exact fun rest => tail.fraction
  · next c cs =>
    match cs, digit with
    | d :: cs, digit =>
      have behind : (splitSign (withoutUnderscores (c :: d :: cs))).2 =
          withoutUnderscores (d :: cs) := by
        rcases sign with rfl | rfl <;> rfl
      refine Binary.spells_of_read? read ?_ ?_
      · rw [behind]
        exact starts d cs digit
      · rw [behind]
        exact fun rest => tail.fraction

/-- A literal becomes the token that it denotes. -/
theorem numberKind_eq_some_iff (numeral : IsNumeral literal) {k : TokenKind} :
    numberKind literal (marksFloat literal) = some k ↔ NumeralDenotes literal k := by
  change (if marksFloat literal = true then
      (Binary.read? (withoutUnderscores literal)).map TokenKind.float
    else ((readInteger true (withoutUnderscores literal)).bind int64?).map .integer) = some k ↔ _
  cases float : marksFloat literal with
  | true =>
    rw [if_pos rfl, Option.map_eq_some_iff]
    constructor
    · rintro ⟨x, read, rfl⟩
      obtain ⟨negative, digits, exponent, spells, rfl⟩ := numeral.spellsDecimal read
      exact .float float spells
    · rintro (⟨whole, -⟩ | ⟨-, spells⟩)
      · cases float.symm.trans whole
      · exact ⟨_, Binary.read?_of_spells spells, rfl⟩
  | false =>
    rw [if_neg Bool.false_ne_true, Option.map_eq_some_iff]
    constructor
    · rintro ⟨n, read, rfl⟩
      obtain ⟨m, read, fits⟩ := Option.bind_eq_some_iff.mp read
      rw [← int64?_eq_some_iff.mp fits, readInteger_eq_some_iff] at read
      exact .integer float read
    · rintro (⟨-, spells⟩ | ⟨point, -⟩)
      · refine ⟨_, ?_, rfl⟩
        rw [readInteger_eq_some_iff.mpr spells, Option.bind_some, int64?_toInt]
      · cases float.symm.trans point

end denotes

end RecordRules

import RecordRules.Proofs.Number.Digits
import RecordRules.Proofs.Text.Pieces

/-!
# Decimals and their spellings

A decimal is spelled with an optional sign, digits, perhaps a point and more digits, and perhaps an
exponent.  Every spelling is read as the number nearest to what it denotes (`read?_of_spells`).  A
text that is read has no other form, unless digits are missing in front of the point or behind it
(`spells_of_read?`).
-/

namespace RecordRules

/-! ## Spellings -/

/-- The digits behind the point: a point and digits, or nothing. -/
inductive SpellsFraction : List Char → List Char → Prop
  | none : SpellsFraction [] []
  | digits {digits : List Char} : AreDigits digits → SpellsFraction ('.' :: digits) digits

/-- An exponent: a mark and an integer, or nothing, which is zero. -/
inductive SpellsExponent : List Char → Int → Prop
  | none : SpellsExponent [] 0
  | marked {mark : Char} {cs : List Char} {n : Int} : mark = 'e' ∨ mark = 'E' →
    SpellsInteger true cs n → SpellsExponent (mark :: cs) n

/-- A spelling of `digits * 10 ^ exponent`. -/
inductive SpellsMagnitude : List Char → Nat → Int → Prop
  | mk {whole behind fraction power : List Char} {n : Int} : AreDigits whole →
    SpellsFraction behind fraction → SpellsExponent power n →
    SpellsMagnitude (whole ++ (behind ++ power))
      (Nat.ofDigitChars 10 (whole ++ fraction) 0) (n - fraction.length)

/-- A spelling of `±digits * 10 ^ exponent`; what is `negative` has a minus. -/
inductive SpellsDecimal : List Char → Bool → Nat → Int → Prop
  | plain {cs : List Char} {digits : Nat} {exponent : Int} : SpellsMagnitude cs digits exponent →
    SpellsDecimal cs false digits exponent
  | plus {cs : List Char} {digits : Nat} {exponent : Int} : SpellsMagnitude cs digits exponent →
    SpellsDecimal ('+' :: cs) false digits exponent
  | minus {cs : List Char} {digits : Nat} {exponent : Int} : SpellsMagnitude cs digits exponent →
    SpellsDecimal ('-' :: cs) true digits exponent

/-! ## Reading -/

theorem readExponent_eq_some_iff {cs : List Char} {n : Int} :
    readExponent cs = some n ↔ SpellsExponent cs n := by
  constructor
  · intro read
    match cs with
    | [] =>
      cases read
      exact .none
    | c :: cs =>
      rw [readExponent] at read
      split at read
      · next mark => exact .marked (by simpa using mark) (readInteger_eq_some_iff.mp read)
      · cases read
  · rintro (_ | ⟨mark, spells⟩)
    · rfl
    · rw [readExponent, if_pos (by simpa using mark)]
      exact readInteger_eq_some_iff.mpr spells

theorem SpellsExponent.ends {cs : List Char} {n : Int} (spells : SpellsExponent cs n) :
    ∀ c ∈ cs.head?, c.isDigit = false := by
  rcases spells with _ | ⟨rfl | rfl, _⟩
  · rintro _ ⟨⟩
  · rintro _ ⟨⟩
    decide
  · rintro _ ⟨⟩
    decide

theorem splitFraction_of_spells {behind fraction power : List Char} {n : Int}
    (fractions : SpellsFraction behind fraction) (powers : SpellsExponent power n) :
    splitFraction (behind ++ power) = (fraction, power) ∧
      ∀ c ∈ (behind ++ power).head?, c.isDigit = false := by
  rcases fractions with _ | digits
  · refine ⟨?_, powers.ends⟩
    rcases powers with _ | ⟨rfl | rfl, _⟩ <;> rfl
  · obtain ⟨taken, dropped⟩ := span_append digits.digit powers.ends
    refine ⟨?_, ?_⟩
    · rw [List.cons_append, splitFraction, taken, dropped]
    · rintro _ ⟨⟩
      decide

theorem splitSign_of_digit {c : Char} (digit : c.isDigit = true) (cs : List Char) :
    splitSign (c :: cs) = (false, c :: cs) := by
  rw [splitSign.eq_def]
  split
  · next is =>
    cases is
    exact absurd digit (by decide)
  · next is =>
    cases is
    exact absurd digit (by decide)
  · rfl

theorem SpellsMagnitude.splitSign {cs : List Char} {digits : Nat} {exponent : Int}
    (spells : SpellsMagnitude cs digits exponent) : splitSign cs = (false, cs) := by
  obtain ⟨⟨some, all⟩, -, -⟩ := spells
  next whole behind fraction power n =>
  match whole, some with
  | c :: whole, _ => exact splitSign_of_digit (all c List.mem_cons_self) _

namespace Binary

variable {f : BinaryFormat} {cs rest : List Char} {negative : Bool} {digits : Nat} {exponent : Int}

theorem read?_of_magnitude (sign : splitSign cs = (negative, rest))
    (spells : SpellsMagnitude rest digits exponent) :
    (read? cs : Option (Binary f)) = some (.ofDecimal negative digits exponent) := by
  obtain ⟨whole, fractions, powers⟩ := spells
  obtain ⟨split, ends⟩ := splitFraction_of_spells fractions powers
  obtain ⟨taken, dropped⟩ := span_append whole.digit ends
  rw [read?, sign]
  dsimp only
  rw [taken, dropped, split]
  dsimp only
  rw [List.isEmpty_eq_false_iff.mpr whole.some, Bool.false_and, if_neg Bool.false_ne_true,
    readExponent_eq_some_iff.mpr powers, readDigits_eq_ofDigitChars, readDigits_eq_ofDigitChars,
    ← Nat.ofDigitChars_append]
  rfl

/-- Every spelling is read as the nearest number. -/
theorem read?_of_spells (spells : SpellsDecimal cs negative digits exponent) :
    (read? cs : Option (Binary f)) = some (.ofDecimal negative digits exponent) := by
  cases spells with
  | plain magnitude => exact read?_of_magnitude magnitude.splitSign magnitude
  | plus magnitude => exact read?_of_magnitude rfl magnitude
  | minus magnitude => exact read?_of_magnitude rfl magnitude

theorem spells_of_splitSign (spells : SpellsMagnitude (splitSign cs).2 digits exponent) :
    SpellsDecimal cs (splitSign cs).1 digits exponent := by
  unfold splitSign at spells ⊢
  split at spells
  · exact .minus spells
  · exact .plus spells
  · exact .plain spells

theorem areDigits_takeWhile (some : cs.takeWhile Char.isDigit ≠ []) :
    AreDigits (cs.takeWhile Char.isDigit) :=
  ⟨some, List.all_eq_true.mp List.all_takeWhile⟩

/-- A text that is read is a spelling, if there are digits in front of the point and behind it. -/
theorem spells_of_read? {x : Binary f} (read : read? cs = some x)
    (whole : (splitSign cs).2.takeWhile Char.isDigit ≠ [])
    (fraction : ∀ rest, (splitSign cs).2.dropWhile Char.isDigit = '.' :: rest →
      rest.takeWhile Char.isDigit ≠ []) :
    ∃ negative digits exponent, SpellsDecimal cs negative digits exponent ∧
      x = .ofDecimal negative digits exponent := by
  suffices magnitude : ∃ digits exponent, SpellsMagnitude (splitSign cs).2 digits exponent by
    obtain ⟨digits, exponent, spells⟩ := magnitude
    have spells := spells_of_splitSign spells
    exact ⟨_, _, _, spells, Option.some.inj (read.symm.trans (read?_of_spells spells))⟩
  rw [read?] at read
  generalize splitSign cs = body at read whole fraction ⊢
  dsimp only at read
  rw [List.isEmpty_eq_false_iff.mpr whole, Bool.false_and, if_neg Bool.false_ne_true] at read
  obtain ⟨n, powers, -⟩ := Option.map_eq_some_iff.mp read
  rw [readExponent_eq_some_iff] at powers
  rw [← List.takeWhile_append_dropWhile (p := Char.isDigit) (l := body.2)]
  cases rest : body.2.dropWhile Char.isDigit with
  | nil => exact ⟨_, _, .mk (areDigits_takeWhile whole) .none .none⟩
  | cons c cs =>
    rw [rest] at powers
    by_cases point : c = '.'
    · subst point
      have digits := areDigits_takeWhile (fraction cs rest)
      have parts : '.' :: cs = '.' :: cs.takeWhile Char.isDigit ++ cs.dropWhile Char.isDigit := by
        rw [List.cons_append, List.takeWhile_append_dropWhile]
      rw [parts]
      exact ⟨_, _, .mk (areDigits_takeWhile whole) (.digits digits) powers⟩
    · have none : splitFraction (c :: cs) = ([], c :: cs) := by
        rw [splitFraction]
        rintro _ ⟨⟩
        exact point rfl
      rw [none] at powers
      exact ⟨_, _, .mk (areDigits_takeWhile whole) .none powers⟩

end Binary

end RecordRules

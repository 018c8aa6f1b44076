import RecordRules.Number.Reading
import RecordRules.Number.Word

/-!
# Numbers and their digits

Reading the decimal digits of a number gives the number again, and so does reading the
text of a machine integer.  An integer is read from its spellings and from nothing else
(`readInteger_eq_some_iff`).
-/

namespace RecordRules

theorem readDigits_eq_ofDigitChars (digits : List Char) (before : Nat) :
    readDigits digits before = Nat.ofDigitChars 10 digits before := by
  rw [readDigits, Nat.ofDigitChars_eq_foldl]
  rfl

theorem isDigit_of_mem_decimal {n : Nat} {c : Char} (mem : c ∈ Nat.toDigits 10 n) :
    c.isDigit = true :=
  Nat.isDigit_of_mem_toDigits (by decide) (by decide) mem

theorem readNatural_toDigits (n : Nat) : readNatural (Nat.toDigits 10 n) = some n := by
  have digits : (Nat.toDigits 10 n).all Char.isDigit = true :=
    List.all_eq_true.mpr fun c mem => isDigit_of_mem_decimal mem
  have some_digit : (Nat.toDigits 10 n).isEmpty = false := by
    rw [List.isEmpty_eq_false_iff]
    exact Nat.toDigits_ne_nil
  rw [readNatural, some_digit, digits, readDigits_eq_ofDigitChars, Nat.ofDigitChars_ten_toDigits]
  rfl

/-- The characters are decimal digits, and there are some. -/
structure AreDigits (cs : List Char) : Prop where
  some : cs ≠ []
  digit : ∀ c ∈ cs, c.isDigit = true

theorem readNatural_eq_some_iff {cs : List Char} {n : Nat} :
    readNatural cs = some n ↔ AreDigits cs ∧ n = Nat.ofDigitChars 10 cs 0 := by
  rw [readNatural, readDigits_eq_ofDigitChars]
  constructor
  · intro read
    split at read
    · next digits =>
      simp only [Bool.and_eq_true, Bool.not_eq_true', List.isEmpty_eq_false_iff,
        List.all_eq_true] at digits
      exact ⟨⟨digits.1, digits.2⟩, (Option.some.inj read).symm⟩
    · cases read
  · rintro ⟨⟨some_digit, digits⟩, rfl⟩
    rw [if_pos (by simpa [List.isEmpty_eq_false_iff, some_digit] using digits)]

/-- A spelling of an integer: digits, perhaps after a plus or, if it may have a sign, a minus. -/
inductive SpellsInteger (signed : Bool) : List Char → Int → Prop
  | plain {digits : List Char} : AreDigits digits →
    SpellsInteger signed digits (Nat.ofDigitChars 10 digits 0 : Nat)
  | plus {digits : List Char} : AreDigits digits →
    SpellsInteger signed ('+' :: digits) (Nat.ofDigitChars 10 digits 0 : Nat)
  | minus {digits : List Char} : signed = true → AreDigits digits →
    SpellsInteger signed ('-' :: digits) (-(Nat.ofDigitChars 10 digits 0 : Nat))

/-- What does not start with a sign is read as digits. -/
theorem readInteger_of_digits (signed : Bool) {cs : List Char}
    (digits : ∀ c ∈ cs, c.isDigit = true) :
    readInteger signed cs = (readNatural cs).map Int.ofNat := by
  rw [readInteger]
  · rintro rest rfl
    exact absurd (digits '-' List.mem_cons_self) (by decide)
  · rintro rest rfl
    exact absurd (digits '+' List.mem_cons_self) (by decide)

/-- Reading an integer gives the number that is spelled, if one is. -/
theorem readInteger_eq_some_iff {signed : Bool} {cs : List Char} {n : Int} :
    readInteger signed cs = some n ↔ SpellsInteger signed cs n := by
  constructor
  · intro read
    unfold readInteger at read
    split at read
    · next cs =>
      split at read
      · next sign =>
        cases is : readNatural cs with
        | none => simp [is] at read
        | some m =>
          obtain ⟨digits, rfl⟩ := readNatural_eq_some_iff.mp is
          rw [is] at read
          cases read
          exact .minus sign digits
      · cases read
    · obtain ⟨m, is, rfl⟩ := Option.map_eq_some_iff.mp read
      obtain ⟨digits, rfl⟩ := readNatural_eq_some_iff.mp is
      exact .plus digits
    · obtain ⟨m, is, rfl⟩ := Option.map_eq_some_iff.mp read
      obtain ⟨digits, rfl⟩ := readNatural_eq_some_iff.mp is
      exact .plain digits
  · intro spells
    cases spells with
    | plain digits =>
      rw [readInteger_of_digits signed digits.digit, readNatural_eq_some_iff.mpr ⟨digits, rfl⟩]
      rfl
    | plus digits =>
      rw [readInteger, readNatural_eq_some_iff.mpr ⟨digits, rfl⟩]
      rfl
    | minus sign digits =>
      rw [readInteger, if_pos sign, readNatural_eq_some_iff.mpr ⟨digits, rfl⟩]
      rfl

/-- The decimal text of an integer: a minus, if it is negative, and the digits. -/
def integerChars (n : Int) : List Char :=
  if n < 0 then '-' :: Nat.toDigits 10 n.natAbs else Nat.toDigits 10 n.natAbs

/-- An integer is written with digits, the first perhaps after a minus. -/
theorem integerChars_cons (n : Int) :
    ∃ c digits, integerChars n = c :: digits ∧ (∀ d ∈ digits, d.isDigit = true) ∧
      (c.isDigit = true ∨ c = '-' ∧ digits ≠ []) := by
  have all := fun c => isDigit_of_mem_decimal (n := n.natAbs) (c := c)
  have some_digit : Nat.toDigits 10 n.natAbs ≠ [] := Nat.toDigits_ne_nil
  rw [integerChars]
  split
  · exact ⟨'-', _, rfl, all, .inr ⟨rfl, some_digit⟩⟩
  · cases digits : Nat.toDigits 10 n.natAbs with
    | nil => exact absurd digits some_digit
    | cons c cs =>
      rw [digits] at all
      rcases List.forall_mem_cons.mp all with ⟨digit, others⟩
      exact ⟨c, cs, rfl, others, .inl digit⟩

theorem toList_toString_int (n : Int) : (toString n).toList = integerChars n := by
  rw [Int.toString_eq_repr, Int.repr_eq_if, integerChars]
  by_cases negative : n < 0
  · have magnitude : (-n).toNat = n.natAbs := by omega
    rw [if_neg (by omega), if_pos negative, String.toList_append, Nat.toList_repr, magnitude]
    rfl
  · have magnitude : n.toNat = n.natAbs := by omega
    rw [if_pos (by omega), if_neg negative, Nat.toList_repr, magnitude]

theorem toList_int64Text (n : Int64) : (int64Text n).toList = integerChars n.toInt :=
  toList_toString_int n.toInt

theorem readInteger_integerChars (n : Int) : readInteger true (integerChars n) = some n := by
  rw [integerChars]
  split
  · next negative =>
    rw [readInteger, if_pos rfl, readNatural_toDigits]
    change some (-(n.natAbs : Int)) = some n
    congr 1
    omega
  · next positive =>
    have read := readNatural_toDigits n.natAbs
    have digits := fun c => isDigit_of_mem_decimal (n := n.natAbs) (c := c)
    generalize Nat.toDigits 10 n.natAbs = text at read digits ⊢
    rw [readInteger_of_digits true digits, read, Option.map_some]
    congr 1
    change (n.natAbs : Int) = n
    omega

theorem holds_int64 (n : Int64) : IntType.int64.Holds n.toInt :=
  ⟨n.le_toInt, Int.le_sub_one_of_lt n.toInt_lt⟩

theorem int64?_toInt (n : Int64) : int64? n.toInt = some n := by
  rw [int64?, if_pos (holds_int64 n), Int64.ofInt_toInt]

theorem int64?_eq_some_iff {m : Int} {n : Int64} : int64? m = some n ↔ n.toInt = m := by
  constructor
  · intro fits
    rw [int64?] at fits
    split at fits
    · next holds =>
      cases fits
      exact Int64.toInt_ofInt_of_le holds.1 (Int.lt_of_le_sub_one holds.2)
    · cases fits
  · rintro rfl
    exact int64?_toInt n

end RecordRules

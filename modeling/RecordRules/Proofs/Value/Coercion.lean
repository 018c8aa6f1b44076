import Mathlib.Data.Int.CharZero
import RecordRules.Proofs.Number.Digits
import RecordRules.Proofs.Number.Fraction
import RecordRules.Proofs.Text.Pieces
import RecordRules.Proofs.Value.Integer
import RecordRules.Value.Assign

/-!
# Integers from literals

Which integer a literal denotes is said without regard to how it is found (`Literal.Denotes`): words
denote themselves, a floating-point number the integer that it is, as long as every integer of
its size has a number of its own, and a text the integer that it spells between blanks.

An integer field takes a literal if and only if that denotes a number of its type, and then
shows just that number; what it says otherwise tells numbers that are too large or too small
from everything else (`Value.set_integer`).
-/

namespace RecordRules

/-! ## Numbers without fraction -/

namespace Binary

variable {f : BinaryFormat}

/-- The finite number is the integer. -/
inductive IsInteger : Binary f → Int → Prop
  | finite {negative : Bool} {digits : Nat} {exponent n : Int}
      {canonical : f.Canonical digits exponent} :
    (if negative then -(digits : ℚ) else digits) * 2 ^ exponent = n →
    IsInteger (.finite negative digits exponent canonical) n

/-- A quotient without remainder. -/
theorem quotient_eq_some_iff {units one n : Int} (pos : 0 < one) :
    (if units % one = 0 then some (units / one) else none) = some n ↔ units = n * one := by
  constructor
  · intro is
    split at is
    · next divides =>
      rw [← Option.some.inj is, Int.ediv_mul_cancel (Int.dvd_of_emod_eq_zero divides)]
    · cases is
  · rintro rfl
    rw [if_pos (Int.mul_emod_left n one), Int.mul_ediv_cancel n (Int.ne_of_gt pos)]

theorem toInt?_eq_some_iff (low : f.lowest ≤ 0) {x : Binary f} {n : Int} :
    x.toInt? = some n ↔ x.IsInteger n := by
  cases x with
  | nan | infinite _ =>
    constructor
    · intro is
      cases is
    · intro is
      cases is
  | finite negative digits exponent canonical =>
    have least : f.lowest ≤ exponent := canonical.2.1
    have one : (0 : Int) < twoTo (-f.lowest).toNat := Int.natCast_pos.mpr (twoTo_pos _)
    obtain ⟨signed, units_eq, cast⟩ : ∃ signed : Int,
        (finite negative digits exponent canonical).units =
          some (signed * twoTo (exponent - f.lowest).toNat) ∧
        (signed : ℚ) = if negative then -(digits : ℚ) else digits := by
      cases negative with
      | false => exact ⟨digits, by simp [units], by simp⟩
      | true => exact ⟨-digits, by simp [units], by simp⟩
    have same : signed * twoTo (exponent - f.lowest).toNat = n * twoTo (-f.lowest).toNat ↔
        (signed : ℚ) * 2 ^ exponent = n := by
      rw [← Int.cast_inj (α := ℚ), Int.cast_mul, Int.cast_mul, Int.cast_natCast, Int.cast_natCast,
        cast_twoTo, cast_twoTo, Int.toNat_of_nonneg (by omega), Int.toNat_of_nonneg (by omega),
        sub_eq_add_neg, zpow_add₀ two_ne_zero, ← mul_assoc,
        mul_left_inj' (zpow_ne_zero _ two_ne_zero)]
    rw [toInt?, units_eq]
    dsimp only
    rw [quotient_eq_some_iff one, same, cast]
    constructor
    · exact .finite
    · intro is
      cases is with
      | finite equal => exact equal

end Binary

/-! ## What literals denote -/

/-- The literal denotes the integer, for a type with signs or without. -/
inductive Literal.Denotes (signed : Bool) : Literal → Int → Prop
  | int (word : Int64) : Denotes signed (.int word) word.toInt
  | uint (word : UInt64) : Denotes signed (.uint word) word.toNat
  | float {x : Double} {n : Int} : x.IsInteger n → n.natAbs < twoTo 53 →
    Denotes signed (.float x) n
  | str {s : String} {before text after : List Char} {n : Int} :
    (∀ c ∈ before, isBlank c = true) → (∀ c ∈ after, isBlank c = true) →
    SpellsInteger signed text n → s.toList = before ++ (text ++ after) →
    Denotes signed (.str s) n

namespace Literal

/-- Spellings of integers have no blanks in them. -/
theorem black_of_spells {signed : Bool} {text : List Char} {n : Int}
    (spells : SpellsInteger signed text n) : text ≠ [] ∧ ∀ c ∈ text, isBlank c = false := by
  have digits : ∀ {cs : List Char}, AreDigits cs → ∀ c ∈ cs, isBlank c = false :=
    fun are c mem => not_blank_of_digit (are.digit c mem)
  cases spells with
  | plain are => exact ⟨are.some, digits are⟩
  | plus are => exact ⟨List.cons_ne_nil _ _, List.forall_mem_cons.mpr ⟨by decide, digits are⟩⟩
  | minus _ are => exact ⟨List.cons_ne_nil _ _, List.forall_mem_cons.mpr ⟨by decide, digits are⟩⟩

theorem denotes_str_iff {signed : Bool} {s : String} {n : Int} :
    (str s).Denotes signed n ↔ readInteger signed (trimBlanks s.toList) = some n := by
  rw [readInteger_eq_some_iff]
  constructor
  · rintro (_ | _ | _ | ⟨before_blank, after_blank, spells, is⟩)
    obtain ⟨some, black⟩ := black_of_spells spells
    rw [is, trimBlanks_append before_blank some black after_blank]
    exact spells
  · intro spells
    obtain ⟨before, after, before_blank, after_blank, is⟩ := exists_trimBlanks s.toList
    exact .str before_blank after_blank spells is

theorem denotes_float_iff {signed : Bool} {x : Double} {n : Int} :
    (float x).Denotes signed n ↔ exactInt? x = some n := by
  have whole := Binary.toInt?_eq_some_iff (f := .double) (by decide) (x := x) (n := n)
  rw [exactInt?]
  constructor
  · rintro (_ | _ | ⟨is, small⟩)
    rw [whole.mpr is]
    exact if_pos small
  · intro is
    split at is
    · next m found =>
      split at is
      · next small =>
        obtain rfl : m = n := Option.some.inj is
        exact .float (whole.mp found) small
      · cases is
    · cases is

/-- A literal denotes at most one integer. -/
theorem Denotes.unique {signed : Bool} {l : Literal} {n n' : Int} (denotes : l.Denotes signed n)
    (denotes' : l.Denotes signed n') : n = n' := by
  cases l with
  | null | bool _ => cases denotes
  | int word | uint word =>
    cases denotes
    cases denotes'
    rfl
  | float x =>
    exact Option.some.inj
      ((denotes_float_iff.mp denotes).symm.trans (denotes_float_iff.mp denotes'))
  | str s =>
    exact Option.some.inj ((denotes_str_iff.mp denotes).symm.trans (denotes_str_iff.mp denotes'))

/-! ## What becomes of them -/

/-- What comes of a literal for an integer type. -/
inductive Converts (t : IntType) (l : Literal) : Except SetError t.Number → Prop
  | fits {n : Int} (denotes : l.Denotes t.signed n) (holds : t.Holds n) :
    Converts t l (.ok ⟨n, holds⟩)
  /-- Only numbers are said to be too large or too small. -/
  | exceeds {n : Int} : l.Denotes t.signed n → ¬ t.Holds n → (∀ s, l ≠ .str s) →
    Converts t l (.error (.overflow l t.name))
  | exceedsText {s : String} {n : Int} : l = .str s → l.Denotes t.signed n → ¬ t.Holds n →
    Converts t l (.error (.mismatch l t.name))
  | senseless : (∀ n, ¬ l.Denotes t.signed n) → Converts t l (.error (.mismatch l t.name))

theorem converts_fit {t : IntType} {l : Literal} {n : Int} (denotes : l.Denotes t.signed n)
    (number : ∀ s, l ≠ .str s) : Converts t l (l.fit t n) := by
  rw [fit, IntType.number?]
  by_cases holds : t.Holds n
  · rw [dif_pos holds]
    exact .fits denotes holds
  · rw [dif_neg holds]
    exact .exceeds denotes holds number

theorem converts_toInteger (t : IntType) (l : Literal) : Converts t l (l.toInteger t) := by
  cases l with
  | null | bool _ => exact .senseless fun n denotes => by cases denotes
  | int word => exact converts_fit (.int word) nofun
  | uint word => exact converts_fit (.uint word) nofun
  | float x =>
    rw [toInteger]
    cases exact : exactInt? x with
    | some n => exact converts_fit (denotes_float_iff.mpr exact) nofun
    | none =>
      refine .senseless fun n denotes => ?_
      simp [denotes_float_iff.mp denotes] at exact
  | str s =>
    rw [toInteger]
    cases read : readInteger t.signed (trimBlanks s.toList) with
    | none =>
      refine .senseless fun n denotes => ?_
      simp [denotes_str_iff.mp denotes] at read
    | some n =>
      have denotes := denotes_str_iff.mpr read
      rw [Option.bind_some, IntType.number?]
      by_cases holds : t.Holds n
      · rw [dif_pos holds]
        exact .fits denotes holds
      · rw [dif_neg holds]
        exact .exceedsText rfl denotes holds

section outcomes

variable {t : IntType} {l : Literal}

theorem toInteger_eq_ok_iff {n : t.Number} :
    l.toInteger t = .ok n ↔ l.Denotes t.signed n.val := by
  have converts := l.converts_toInteger t
  generalize l.toInteger t = result at converts
  cases converts with
  | fits denotes holds =>
    constructor
    · intro is
      rw [← Except.ok.inj is]
      exact denotes
    · intro other
      exact congrArg Except.ok (Subtype.ext (denotes.unique other))
  | exceeds denotes beyond _ | exceedsText _ denotes beyond =>
    refine ⟨nofun, fun other => ?_⟩
    rw [← other.unique denotes] at beyond
    exact absurd n.property beyond
  | senseless none => exact ⟨nofun, fun other => absurd other (none _)⟩

theorem toInteger_eq_overflow_iff :
    l.toInteger t = .error (.overflow l t.name) ↔
      ∃ n, l.Denotes t.signed n ∧ ¬ t.Holds n ∧ ∀ s, l ≠ .str s := by
  have converts := l.converts_toInteger t
  generalize l.toInteger t = result at converts
  cases converts with
  | fits denotes holds =>
    refine ⟨nofun, fun ⟨n, other, beyond, _⟩ => ?_⟩
    rw [other.unique denotes] at beyond
    exact absurd holds beyond
  | exceeds denotes beyond number => exact ⟨fun _ => ⟨_, denotes, beyond, number⟩, fun _ => rfl⟩
  | exceedsText is _ _ => exact ⟨nofun, fun ⟨_, _, _, number⟩ => absurd is (number _)⟩
  | senseless none => exact ⟨nofun, fun ⟨n, other, _⟩ => absurd other (none n)⟩

theorem toInteger_eq_mismatch_iff :
    l.toInteger t = .error (.mismatch l t.name) ↔
      (∀ n, ¬ l.Denotes t.signed n) ∨ ∃ s n, l = .str s ∧ l.Denotes t.signed n ∧ ¬ t.Holds n := by
  have converts := l.converts_toInteger t
  generalize l.toInteger t = result at converts
  cases converts with
  | @fits n denotes holds =>
    refine ⟨nofun, fun unfit => ?_⟩
    rcases unfit with none | ⟨s, m, -, other, beyond⟩
    · exact absurd denotes (none n)
    · rw [other.unique denotes] at beyond
      exact absurd holds beyond
  | @exceeds n denotes _ number =>
    refine ⟨nofun, fun unfit => ?_⟩
    rcases unfit with none | ⟨s, _, is, -⟩
    · exact absurd denotes (none n)
    · exact absurd is (number s)
  | exceedsText is denotes beyond =>
    exact ⟨fun _ => .inr ⟨_, _, is, denotes, beyond⟩, fun _ => rfl⟩
  | senseless none => exact ⟨fun _ => .inl none, fun _ => rfl⟩

end outcomes

end Literal

/-! ## Integer fields -/

namespace Value

section adopt

variable {α : Type} {old : Value} {make : α → Value} {result : Except SetError α}

theorem adopt_fst_eq_ok_iff : (adopt old make result).1 = .ok () ↔ ∃ a, result = .ok a := by
  cases result <;> simp [adopt]

theorem adopt_fst_eq_error_iff {e : SetError} :
    (adopt old make result).1 = .error e ↔ result = .error e := by
  cases result <;> simp [adopt]

end adopt

/-- An integer field takes a literal if and only if that denotes a number of its type, and then it
shows just that number.  Otherwise a number that the literal denotes, other than in a text, is
said to overflow, and everything else does not match. -/
theorem set_integer (t : IntType) (old : t.Number) (l : Literal) :
    let after := (integer t old).set l
    (∀ n, l.Denotes t.signed n → t.Holds n → after.1 = .ok () ∧ Shows n after.2.view) ∧
      (after.1 = .ok () ↔ ∃ n, l.Denotes t.signed n ∧ t.Holds n) ∧
      (after.1 = .error (.overflow l t.name) ↔
        ∃ n, l.Denotes t.signed n ∧ ¬ t.Holds n ∧ ∀ s, l ≠ .str s) ∧
      (after.1 = .error (.mismatch l t.name) ↔
        (∀ n, ¬ l.Denotes t.signed n) ∨
          ∃ s n, l = .str s ∧ l.Denotes t.signed n ∧ ¬ t.Holds n) := by
  intro after
  have is : after = adopt (integer t old) (integer t) (l.toInteger t) := rfl
  rw [is, adopt_fst_eq_error_iff, adopt_fst_eq_error_iff, adopt_fst_eq_ok_iff]
  refine ⟨fun n denotes holds => ?_, ?_, Literal.toInteger_eq_overflow_iff,
    Literal.toInteger_eq_mismatch_iff⟩
  · have turned : l.toInteger t = .ok ⟨n, holds⟩ := Literal.toInteger_eq_ok_iff.mpr denotes
    rw [turned]
    exact ⟨⟨_, rfl⟩, shows_ofInteger t ⟨n, holds⟩⟩
  · simp only [Literal.toInteger_eq_ok_iff]
    exact ⟨fun ⟨n, denotes⟩ => ⟨n.val, denotes, n.property⟩,
      fun ⟨n, denotes, holds⟩ => ⟨⟨n, holds⟩, denotes⟩⟩

/-- The greatest word of 64 bits is too large for any other type, and a text that spells it is
not even called so. -/
theorem set_integer_greatest :
    ((integer .int64 ⟨0, by decide⟩).set (.uint (.ofNat (2 ^ 64 - 1)))).1 =
        .error (.overflow (.uint (.ofNat (2 ^ 64 - 1))) "i64") ∧
      ((integer .int64 ⟨0, by decide⟩).set (.str "18446744073709551615")).1 =
        .error (.mismatch (.str "18446744073709551615") "i64") ∧
      ((integer .uint64 ⟨0, by decide⟩).set (.str "18446744073709551615")).1 = .ok () := by
  have spelled : ∀ signed, (Literal.str "18446744073709551615").Denotes signed (2 ^ 64 - 1) :=
    fun signed => Literal.denotes_str_iff.mpr (by cases signed <;> decide +kernel)
  refine ⟨?_, ?_, ?_⟩
  · exact (set_integer .int64 ⟨0, by decide⟩ _).2.2.1.mpr ⟨_, .uint _, by decide, nofun⟩
  · exact (set_integer .int64 ⟨0, by decide⟩ _).2.2.2.mpr
      (.inr ⟨_, _, rfl, spelled true, by decide⟩)
  · exact (set_integer .uint64 ⟨0, by decide⟩ _).2.1.mpr ⟨_, spelled false, by decide⟩

end Value

end RecordRules

import Mathlib.Tactic.Linarith
import Mathlib.Tactic.NormNum
import RecordRules.Proofs.Number.Rounding
import RecordRules.Value.Json

/-!
# Magnitudes beyond a format

A fraction is rounded to a finite number exactly if it lies below the limit of the format, which is
half a unit of the last place above the greatest number of the format: from the limit on, the
nearest number with as many digits as the format keeps needs an exponent beyond the highest
(`Binary.isFinite_ofRatio_iff`).  For doubles the limit is `2 ^ 1024 - 2 ^ 970`, and decimals obey
it too, those that need no arithmetic included (`Binary.isFinite_ofDecimal_iff`).
-/

namespace RecordRules

/-! ## Rounding up to an even number -/

/-- What is rounded to less than an even number is nearer to the number before it. -/
theorem roundHalfEven_lt_iff {num den n : Nat} (even : Even n) (pos : 0 < den) :
    roundHalfEven num den < n ↔ 2 * num + den < 2 * (n * den) := by
  obtain ⟨half, double⟩ := even
  have parts := Nat.div_add_mod num den
  have below := Nat.mod_lt num pos
  rw [Nat.mul_comm] at parts
  dsimp only [roundHalfEven]
  generalize num / den = quotient at parts ⊢
  generalize num % den = rest at parts below ⊢
  rcases Nat.lt_trichotomy (quotient + 1) n with less | last | more
  · have product : (quotient + 2) * den ≤ n * den := Nat.mul_le_mul_right den less
    rw [Nat.add_mul] at product
    refine iff_of_true ?_ (by omega)
    split
    · omega
    · split <;> omega
  · have product : (quotient + 1) * den = n * den := congrArg (· * den) last
    rw [Nat.add_mul, Nat.one_mul] at product
    split
    · omega
    · split <;> omega
  · have product : n * den ≤ quotient * den := Nat.mul_le_mul_right den (by omega)
    refine iff_of_false ?_ (by omega)
    split
    · omega
    · split <;> omega

/-- A fraction counted in units, compared with a number of them. -/
theorem le_inUnitsOf_iff {num den : Nat} (pos : 0 < den) (exponent : Int) (n : Nat) :
    n * (inUnitsOf exponent num den).2 ≤ (inUnitsOf exponent num den).1 ↔
      (n : ℚ) * 2 ^ exponent ≤ num / den := by
  have unit : (0 : ℚ) < (inUnitsOf exponent num den).2 :=
    Nat.cast_pos.mpr (inUnitsOf_pos exponent num pos)
  have power : (0 : ℚ) < 2 ^ exponent := zpow_pos two_pos exponent
  rw [← Nat.cast_le (α := ℚ), Nat.cast_mul, ← le_div_iff₀ unit, inUnitsOf_eq, le_div_iff₀ power]

/-- The same for what lies half a unit before the number. -/
theorem inUnitsOf_lt_iff {num den : Nat} (pos : 0 < den) (exponent : Int) (n : Nat) :
    2 * (inUnitsOf exponent num den).1 + (inUnitsOf exponent num den).2 <
        2 * (n * (inUnitsOf exponent num den).2) ↔
      (num : ℚ) / den < (n - 1 / 2) * 2 ^ exponent := by
  have unit : (0 : ℚ) < (inUnitsOf exponent num den).2 :=
    Nat.cast_pos.mpr (inUnitsOf_pos exponent num pos)
  have power : (0 : ℚ) < 2 ^ exponent := zpow_pos two_pos exponent
  rw [← div_lt_iff₀ power, ← inUnitsOf_eq, div_lt_iff₀ unit, ← Nat.cast_lt (α := ℚ)]
  push_cast
  constructor <;> intro less <;> linarith

/-! ## Fractions -/

/-- The least magnitude that is too large for a format. -/
def BinaryFormat.limit (f : BinaryFormat) : ℚ :=
  (2 ^ f.precision - 1 / 2) * 2 ^ f.highest

namespace Binary

variable {f : BinaryFormat} {num den : Nat}

theorem isFinite_ofCanonical {negative : Bool} {digits : Nat} {exponent : Int} :
    (ofCanonical negative digits exponent : Binary f).isFinite = true ↔
      f.Canonical digits exponent := by
  rw [ofCanonical]
  split
  · next canonical => exact iff_of_true rfl canonical
  · next other => exact iff_of_false Bool.false_ne_true other

/-- A fraction becomes a finite number or the infinity of its sign. -/
theorem ofRatio_finite_or (negative : Bool) (num den : Nat) :
    (ofRatio negative num den : Binary f).isFinite = true ∨
      (ofRatio negative num den : Binary f) = .infinite negative := by
  have either (digits : Nat) (exponent : Int) :
      (ofCanonical negative digits exponent : Binary f).isFinite = true ∨
        (ofCanonical negative digits exponent : Binary f) = .infinite negative := by
    rw [ofCanonical]
    split
    · exact .inl rfl
    · exact .inr rfl
  rw [ofRatio]
  split
  · exact .inl rfl
  · dsimp only
    split <;> exact either _ _

/-- The digits that are kept of a fraction, at the exponent that is chosen for it. -/
def keptDigits (f : BinaryFormat) (num den : Nat) : Nat :=
  roundHalfEven (inUnitsOf (exponentFor f num den) num den).1
    (inUnitsOf (exponentFor f num den) num den).2

/-- The kept digits fit the format or are the next power of two; unless the exponent is the lowest,
they are no fewer than the format keeps. -/
theorem keptDigits_bounds (keeps : 0 < f.precision) (some : 0 < num) (pos : 0 < den) :
    keptDigits f num den ≤ twoTo f.precision ∧
      (twoTo (f.precision - 1) ≤ keptDigits f num den ∨ exponentFor f num den = f.lowest) := by
  obtain ⟨exact, is, low, high⟩ := exponentFor_spec f some pos
  rw [keptDigits]
  generalize exponentFor f num den = exponent at is ⊢
  have unit := inUnitsOf_pos exponent num pos
  constructor
  · rw [← roundHalfEven_mul_self (twoTo f.precision) unit]
    refine roundHalfEven_mono unit (Nat.le_of_lt (not_le.mp fun enough => ?_))
    rw [le_inUnitsOf_iff pos, cast_twoTo, ← zpow_add₀ two_ne_zero] at enough
    have := (zpow_lt_zpow_iff_right₀ one_lt_two).mp (enough.trans_lt high)
    omega
  · rcases Int.lt_or_le exact f.lowest with below | above
    · exact .inr (by omega)
    · refine .inl ?_
      obtain rfl : exponent = exact := by omega
      rw [← roundHalfEven_mul_self (twoTo (f.precision - 1)) unit]
      refine roundHalfEven_mono unit ?_
      rw [le_inUnitsOf_iff pos, cast_twoTo, ← zpow_add₀ two_ne_zero]
      exact (zpow_le_zpow_right₀ one_le_two (by omega)).trans low

theorem ofRatio_of_pos (negative : Bool) (some : 0 < num) (den : Nat) :
    (ofRatio negative num den : Binary f) =
      if keptDigits f num den = twoTo f.precision then
        ofCanonical negative (twoTo (f.precision - 1)) (exponentFor f num den + 1)
      else ofCanonical negative (keptDigits f num den) (exponentFor f num den) := by
  rw [ofRatio, if_neg some.ne']
  rfl

/-- A fraction is rounded to a finite number if the exponent for it is not too high, and does not
become so when the digits are rounded up to the next power of two. -/
theorem isFinite_ofRatio_iff_digits (keeps : 0 < f.precision) (negative : Bool) (some : 0 < num)
    (pos : 0 < den) :
    (ofRatio negative num den : Binary f).isFinite = true ↔
      exponentFor f num den < f.highest ∨
        exponentFor f num den = f.highest ∧ keptDigits f num den < twoTo f.precision := by
  obtain ⟨most, least⟩ := keptDigits_bounds keeps some pos
  have lowest : f.lowest ≤ exponentFor f num den := le_max_right _ _
  have half : twoTo (f.precision - 1) < twoTo f.precision :=
    Nat.pow_lt_pow_right (by decide) (by omega)
  rw [ofRatio_of_pos negative some]
  split
  · next full =>
    rw [isFinite_ofCanonical, BinaryFormat.Canonical]
    omega
  · next other =>
    rw [isFinite_ofCanonical, BinaryFormat.Canonical]
    omega

/-- The limit lies between the powers of two that have the highest exponent. -/
theorem limit_bounds (keeps : 0 < f.precision) :
    (2 : ℚ) ^ (f.highest + f.precision - 1) ≤ f.limit ∧
      f.limit < 2 ^ (f.highest + f.precision) := by
  have power : (0 : ℚ) < 2 ^ f.highest := zpow_pos two_pos _
  have one : (1 : ℚ) ≤ 2 ^ (f.precision - 1) := one_le_pow₀ one_le_two
  have twice : (2 : ℚ) ^ f.precision = 2 ^ (f.precision - 1) * 2 := by
    rw [← pow_succ]
    exact congrArg _ (by omega)
  have less : f.highest + f.precision - 1 = (f.precision - 1 : Nat) + f.highest := by omega
  rw [less, add_comm f.highest, zpow_add₀ two_ne_zero, zpow_add₀ two_ne_zero, zpow_natCast,
    zpow_natCast, BinaryFormat.limit]
  constructor
  · gcongr
    linarith
  · gcongr
    linarith

/-- Fractions below the limit of the format become finite numbers, and no others. -/
theorem isFinite_ofRatio_iff (keeps : 0 < f.precision) (negative : Bool) (num : Nat)
    (pos : 0 < den) :
    (ofRatio negative num den : Binary f).isFinite = true ↔ (num : ℚ) / den < f.limit := by
  obtain ⟨low, high⟩ := limit_bounds keeps
  rcases Nat.eq_zero_or_pos num with rfl | some
  · rw [Nat.cast_zero, zero_div]
    exact iff_of_true rfl ((zpow_pos two_pos _).trans_le low)
  have digits := isFinite_ofRatio_iff_digits keeps negative some pos
  have even : Even (twoTo f.precision) := (Nat.even_pow.mpr ⟨even_two, keeps.ne'⟩)
  have rounded := (roundHalfEven_lt_iff even (inUnitsOf_pos (exponentFor f num den) num pos)).trans
    (inUnitsOf_lt_iff pos (exponentFor f num den) (twoTo f.precision))
  obtain ⟨exact, is, least, most⟩ := exponentFor_spec f some pos
  have lowest := f.lowest_le_highest
  rw [digits]
  rcases Int.lt_trichotomy (exponentFor f num den) f.highest with less | same | more
  · refine iff_of_true (.inl less) (most.trans_le (le_trans ?_ low))
    exact zpow_le_zpow_right₀ one_le_two (by omega)
  · rw [same, cast_twoTo, zpow_natCast] at rounded
    rw [keptDigits, same, rounded, BinaryFormat.limit]
    exact ⟨fun either => (either.resolve_left (lt_irrefl _)).2, fun below => .inr ⟨rfl, below⟩⟩
  · refine iff_of_false (by omega) (not_lt.mpr (high.le.trans (le_trans ?_ least)))
    exact zpow_le_zpow_right₀ one_le_two (by omega)

/-! ## Decimals as doubles -/

theorem cast_tenTo (k : Nat) : (tenTo k : ℚ) = 10 ^ (k : Int) := by
  rw [zpow_natCast]
  exact Nat.cast_pow 10 k

theorem limit_double : BinaryFormat.double.limit = 2 ^ 1024 - 2 ^ 970 := by
  have top : (2 : ℚ) ^ 1024 = 2 ^ 53 * 2 ^ 971 := pow_add 2 53 971
  have last : (2 : ℚ) ^ 971 = 2 ^ 970 * 2 := pow_succ 2 970
  rw [BinaryFormat.limit]
  change ((2 : ℚ) ^ 53 - 1 / 2) * 2 ^ ((971 : Nat) : Int) = _
  rw [zpow_natCast, top, last]
  generalize (2 : ℚ) ^ 970 = power
  ring

/-- A number lies between the powers of ten that its decimal digits tell. -/
theorem decimal_bounds {digits : Nat} (some : 0 < digits) :
    (10 : ℚ) ^ (((Nat.toDigits 10 digits).length : Int) - 1) ≤ digits ∧
      (digits : ℚ) < 10 ^ ((Nat.toDigits 10 digits).length : Int) := by
  have fits (k : Nat) (pos : 0 < k) : (Nat.toDigits 10 digits).length ≤ k ↔ digits < 10 ^ k :=
    Nat.length_toDigits_le_iff (by decide) pos
  have pos : 0 < (Nat.toDigits 10 digits).length :=
    List.length_pos_iff.mpr Nat.toDigits_ne_nil
  generalize (Nat.toDigits 10 digits).length = length at fits pos ⊢
  obtain ⟨k, rfl⟩ := Nat.exists_eq_add_one_of_ne_zero pos.ne'
  constructor
  · rw [Int.natCast_succ, Int.add_sub_cancel, ← cast_tenTo, Nat.cast_le]
    rcases Nat.eq_zero_or_pos k with rfl | more
    · exact some
    · exact not_lt.mp fun less => absurd ((fits k more).mpr less) (by omega)
  · rw [← cast_tenTo, Nat.cast_lt]
    exact (fits (k + 1) pos).mp (Nat.le_refl _)

/-- A decimal is rounded as a fraction, unless its magnitude tells what it becomes. -/
theorem ofDecimal_cases (negative : Bool) (digits : Nat) (exponent : Int) :
    (∃ num den : Nat, 0 < den ∧ (num : ℚ) / den = digits * 10 ^ exponent ∧
      (ofDecimal negative digits exponent : Binary f) = ofRatio negative num den) ∨
    ((digits : ℚ) * 10 ^ exponent ≤ 10 ^ (-400 : Int) ∧
      (ofDecimal negative digits exponent : Binary f) = zero negative) ∨
    ((10 : ℚ) ^ (400 : Int) ≤ digits * 10 ^ exponent ∧
      (ofDecimal negative digits exponent : Binary f) = .infinite negative) := by
  have one_le : (1 : ℚ) ≤ 10 := by norm_num
  have ten : (10 : ℚ) ≠ 0 := by norm_num
  rw [ofDecimal]
  split
  · next none =>
    refine .inr (.inl ⟨?_, rfl⟩)
    rw [none, Nat.cast_zero, zero_mul]
    positivity
  next some =>
  obtain ⟨least, most⟩ := decimal_bounds (Nat.pos_of_ne_zero some)
  dsimp only
  split
  · next above =>
    refine .inr (.inr ⟨?_, rfl⟩)
    calc (10 : ℚ) ^ (400 : Int)
        ≤ 10 ^ (((Nat.toDigits 10 digits).length : Int) - 1 + exponent) :=
        zpow_le_zpow_right₀ one_le (by omega)
      _ = 10 ^ (((Nat.toDigits 10 digits).length : Int) - 1) * 10 ^ exponent :=
        zpow_add₀ ten _ _
      _ ≤ digits * 10 ^ exponent := by gcongr
  split
  · next below =>
    refine .inr (.inl ⟨?_, rfl⟩)
    calc (digits : ℚ) * 10 ^ exponent
        ≤ 10 ^ ((Nat.toDigits 10 digits).length : Int) * 10 ^ exponent := by gcongr
      _ = 10 ^ ((Nat.toDigits 10 digits).length + exponent) := (zpow_add₀ ten _ _).symm
      _ ≤ 10 ^ (-400 : Int) := zpow_le_zpow_right₀ one_le (by omega)
  split
  · next whole =>
    refine .inl ⟨_, 1, one_pos, ?_, rfl⟩
    rw [Nat.cast_mul, cast_tenTo, Int.toNat_of_nonneg whole, Nat.cast_one, div_one]
  · next fraction =>
    refine .inl ⟨digits, _, tenTo_pos _, ?_, rfl⟩
    rw [cast_tenTo, Int.toNat_of_nonneg (by omega), zpow_neg, div_inv_eq_mul]

/-- Decimals below the limit of doubles become finite numbers, and no others. -/
theorem isFinite_ofDecimal_iff (negative : Bool) (digits : Nat) (exponent : Int) :
    (ofDecimal negative digits exponent : Double).isFinite = true ↔
      (digits : ℚ) * 10 ^ exponent < 2 ^ 1024 - 2 ^ 970 := by
  have keeps : 0 < BinaryFormat.double.precision := by decide
  obtain ⟨low, high⟩ := limit_bounds keeps
  rw [← limit_double]
  rcases ofDecimal_cases negative digits exponent with
    ⟨num, den, pos, same, is⟩ | ⟨tiny, is⟩ | ⟨huge, is⟩
  · rw [is, ← same]
    exact isFinite_ofRatio_iff keeps negative num pos
  · rw [is]
    refine iff_of_true rfl (tiny.trans_lt (lt_of_lt_of_le ?_ low))
    calc (10 : ℚ) ^ (-400 : Int) < 1 := zpow_lt_one_of_neg₀ (by norm_num) (by decide)
      _ ≤ 2 ^ (1023 : Int) := one_le_zpow₀ one_le_two (by decide)
  · rw [is]
    refine iff_of_false Bool.false_ne_true (not_lt.mpr (high.le.trans (le_trans ?_ huge)))
    calc (2 : ℚ) ^ (1024 : Int) = (2 ^ 64) ^ 16 := by rw [← pow_mul]; rfl
      _ ≤ (10 ^ 25) ^ 16 := by gcongr; norm_num
      _ = 10 ^ (400 : Int) := by rw [← pow_mul]; rfl

/-- A decimal becomes a finite number or the infinity of its sign. -/
theorem ofDecimal_finite_or (negative : Bool) (digits : Nat) (exponent : Int) :
    (ofDecimal negative digits exponent : Binary f).isFinite = true ∨
      (ofDecimal negative digits exponent : Binary f) = .infinite negative := by
  rcases ofDecimal_cases negative digits exponent with ⟨num, den, -, -, is⟩ | ⟨-, is⟩ | ⟨-, is⟩
  · rw [is]
    exact ofRatio_finite_or negative num den
  · rw [is]
    exact .inl rfl
  · exact .inr is

end Binary

end RecordRules

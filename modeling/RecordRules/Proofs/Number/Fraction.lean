import Mathlib.Algebra.Order.Field.Power
import Mathlib.Algebra.Order.Field.Rat
import Mathlib.Tactic.FieldSimp
import RecordRules.Number.Binary

/-!
# Rounding fractions

A fraction is rounded at the exponent where it has as many binary digits as the format keeps
(`Binary.exponentFor_spec`), and one that is a number of the format is rounded to that number
(`Binary.ofRatio_of_canonical`).

Fractions are rationals here: the model counts them in units of a power of two, as quotients of
natural numbers, so that the power is on one side or the other.

Nothing is lost when a number goes to a format that holds all numbers of its own, and nothing when
it comes back from there (`Binary.convert_convert`), because a fraction that is a number of a format
is rounded to that number.
-/

namespace RecordRules

/-! ## Rounding a quotient -/

theorem roundHalfEven_one (n : Nat) : roundHalfEven n 1 = n := by
  simp [roundHalfEven, Nat.mod_one]

/-- Only the quotient counts. -/
theorem roundHalfEven_mul (num den : Nat) {factor : Nat} (pos : 0 < factor) :
    roundHalfEven (num * factor) (den * factor) = roundHalfEven num den := by
  have low : 2 * (num % den * factor) < den * factor ↔ 2 * (num % den) < den := by
    rw [← Nat.mul_assoc, Nat.mul_lt_mul_right pos]
  have high : den * factor < 2 * (num % den * factor) ↔ den < 2 * (num % den) := by
    rw [← Nat.mul_assoc, Nat.mul_lt_mul_right pos]
  simp only [roundHalfEven, Nat.mul_div_mul_right _ _ pos, Nat.mul_mod_mul_right, low, high]

/-- Multiples are rounded to themselves. -/
theorem roundHalfEven_mul_self (n : Nat) {den : Nat} (pos : 0 < den) :
    roundHalfEven (n * den) den = n := by
  have rounded := roundHalfEven_mul n 1 pos
  rwa [Nat.one_mul, roundHalfEven_one] at rounded

/-! ## Fractions and powers of two -/

theorem twoTo_add (m n : Nat) : twoTo (m + n) = twoTo m * twoTo n :=
  Nat.pow_add 2 m n

theorem cast_twoTo (k : Nat) : (twoTo k : ℚ) = 2 ^ (k : Int) := by
  rw [zpow_natCast]
  exact Nat.cast_pow 2 k

theorem inUnitsOf_pos (exponent : Int) (num : Nat) {den : Nat} (pos : 0 < den) :
    0 < (inUnitsOf exponent num den).2 := by
  rw [inUnitsOf]
  split
  · exact Nat.mul_pos pos (twoTo_pos _)
  · exact pos

theorem inUnitsOf_eq (exponent : Int) (num den : Nat) :
    ((inUnitsOf exponent num den).1 : ℚ) / (inUnitsOf exponent num den).2 =
      num / den / 2 ^ exponent := by
  rw [inUnitsOf]
  split
  · next nonneg =>
    rw [Nat.cast_mul, cast_twoTo, Int.toNat_of_nonneg nonneg, div_div]
  · next negative =>
    rw [Nat.cast_mul, cast_twoTo, Int.toNat_of_nonneg (by omega), zpow_neg]
    field_simp

theorem log2_bounds {n : Nat} (pos : 0 < n) :
    (2 : ℚ) ^ (n.log2 : Int) ≤ n ∧ (n : ℚ) < 2 ^ ((n.log2 : Int) + 1) := by
  rw [← Int.natCast_succ, ← cast_twoTo, ← cast_twoTo, Nat.cast_le, Nat.cast_lt]
  exact ⟨Nat.log2_self_le (by omega), Nat.lt_log2_self⟩

/-- How many binary digits a fraction has in front of the point is told, up to one, by the digits
of its numerator and its denominator. -/
theorem ratio_bounds {num den : Nat} (some : 0 < num) (pos : 0 < den) :
    (2 : ℚ) ^ ((num.log2 : Int) - den.log2 - 1) ≤ num / den ∧
      (num : ℚ) / den < 2 ^ ((num.log2 : Int) - den.log2 + 1) := by
  have pos' : (0 : ℚ) < den := Nat.cast_pos.mpr pos
  obtain ⟨low, high⟩ := log2_bounds some
  obtain ⟨low', high'⟩ := log2_bounds pos
  constructor
  · rw [le_div_iff₀ pos']
    calc (2 : ℚ) ^ ((num.log2 : Int) - den.log2 - 1) * den
        ≤ 2 ^ ((num.log2 : Int) - den.log2 - 1) * 2 ^ ((den.log2 : Int) + 1) := by gcongr
      _ = 2 ^ (num.log2 : Int) := by
        rw [← zpow_add₀ two_ne_zero]
        exact congrArg _ (by omega)
      _ ≤ num := low
  · rw [div_lt_iff₀ pos']
    calc (num : ℚ) < 2 ^ ((num.log2 : Int) + 1) := high
      _ = 2 ^ ((num.log2 : Int) - den.log2 + 1) * 2 ^ (den.log2 : Int) := by
        rw [← zpow_add₀ two_ne_zero]
        exact congrArg _ (by omega)
      _ ≤ 2 ^ ((num.log2 : Int) - den.log2 + 1) * den := by gcongr

namespace Binary

variable {f g : BinaryFormat}

/-- The exponent at which a fraction has as many digits as the format keeps, unless that is too
low for the format. -/
theorem exponentFor_spec (f : BinaryFormat) {num den : Nat} (some : 0 < num) (pos : 0 < den) :
    ∃ exponent, exponentFor f num den = max exponent f.lowest ∧
      (2 : ℚ) ^ (exponent + f.precision - 1) ≤ num / den ∧
      (num : ℚ) / den < 2 ^ (exponent + f.precision) := by
  obtain ⟨low, high⟩ := ratio_bounds some pos
  rw [exponentFor]
  dsimp only
  generalize is : (num.log2 : Int) - den.log2 - f.precision = guess
  have enough : twoTo f.precision ≤
      (inUnitsOf guess num den).1 / (inUnitsOf guess num den).2 ↔
        (2 : ℚ) ^ (guess + f.precision) ≤ num / den := by
    have unit := inUnitsOf_pos guess num pos
    have unit' : (0 : ℚ) < (inUnitsOf guess num den).2 := Nat.cast_pos.mpr unit
    have power : (0 : ℚ) < 2 ^ guess := zpow_pos two_pos guess
    rw [Nat.le_div_iff_mul_le unit, ← Nat.cast_le (α := ℚ), Nat.cast_mul, ← le_div_iff₀ unit',
      inUnitsOf_eq, cast_twoTo, le_div_iff₀ power, ← zpow_add₀ two_ne_zero, add_comm]
  split
  · next above =>
    refine ⟨guess + 1, rfl, ?_, ?_⟩
    · rw [add_right_comm, add_sub_cancel_right]
      exact enough.mp above
    · rwa [show guess + 1 + f.precision = num.log2 - den.log2 + 1 by omega]
  · next below =>
    refine ⟨guess, rfl, ?_, ?_⟩
    · rwa [show guess + f.precision - 1 = num.log2 - den.log2 - 1 by omega]
    · exact not_le.mp (mt enough.mpr below)

/-- A number of the format has the exponent that is chosen for it. -/
theorem exponentFor_of_canonical {digits : Nat} {exponent : Int}
    (canonical : f.Canonical digits exponent) {num den : Nat} (some : 0 < num) (pos : 0 < den)
    (is : (num : ℚ) / den = digits * 2 ^ exponent) : exponentFor f num den = exponent := by
  obtain ⟨below, least, -, full⟩ := canonical
  obtain ⟨chosen, max_eq, low, high⟩ := exponentFor_spec f some pos
  rw [is] at low high
  have power : (0 : ℚ) < 2 ^ exponent := zpow_pos two_pos exponent
  have fewer : (digits : ℚ) * 2 ^ exponent < 2 ^ (exponent + f.precision) := by
    rw [zpow_add₀ two_ne_zero, mul_comm, ← cast_twoTo]
    gcongr
  have at_most : chosen ≤ exponent := by
    have := (zpow_lt_zpow_iff_right₀ one_lt_two).mp (low.trans_lt fewer)
    omega
  rw [max_eq]
  rcases full with full | lowest
  · have more : (2 : ℚ) ^ (exponent + (f.precision - 1 : Nat)) ≤ digits * 2 ^ exponent := by
      rw [zpow_add₀ two_ne_zero, mul_comm, ← cast_twoTo]
      gcongr
    have := (zpow_lt_zpow_iff_right₀ one_lt_two).mp (more.trans_lt high)
    omega
  · omega

/-- A fraction that is a number of the format is rounded to it. -/
theorem ofRatio_of_canonical {digits : Nat} {exponent : Int}
    (canonical : f.Canonical digits exponent) (negative : Bool) {num den : Nat} (some : 0 < num)
    (pos : 0 < den) (is : (num : ℚ) / den = digits * 2 ^ exponent) :
    ofRatio negative num den = .finite negative digits exponent canonical := by
  have whole : (inUnitsOf exponent num den).1 = digits * (inUnitsOf exponent num den).2 := by
    have unit : (0 : ℚ) < (inUnitsOf exponent num den).2 :=
      Nat.cast_pos.mpr (inUnitsOf_pos exponent num pos)
    have scaled := inUnitsOf_eq exponent num den
    rw [is, mul_div_cancel_right₀ _ (zpow_ne_zero _ two_ne_zero), div_eq_iff unit.ne'] at scaled
    exact_mod_cast scaled
  rw [ofRatio, if_neg some.ne', exponentFor_of_canonical canonical some pos is]
  dsimp only
  rw [whole, roundHalfEven_mul_self digits (inUnitsOf_pos exponent num pos),
    if_neg (Nat.ne_of_lt canonical.1), ofCanonical, dif_pos canonical]

end Binary

/-! ## Numbers of one format in another -/

namespace Binary

variable {f g : BinaryFormat}

/-- Zero has the lowest exponent. -/
theorem eq_zero_of_canonical {exponent : Int} (canonical : f.Canonical 0 exponent)
    (negative : Bool) :
    finite negative 0 exponent canonical = zero negative := by
  obtain ⟨-, -, -, full | rfl⟩ := id canonical
  · exact absurd (twoTo_pos _) (Nat.not_lt.mpr full)
  · rfl

theorem convert_zero (negative : Bool) :
    (zero negative : Binary f).convert = (zero negative : Binary g) := by
  rw [zero, convert]
  split
  · rw [Nat.zero_mul, ofRatio, if_pos rfl]
  · rw [ofRatio, if_pos rfl]

/-- A number that is one of the other format too goes there unchanged. -/
theorem convert_of_canonical {digits digits' : Nat} {exponent exponent' : Int}
    (canonical : f.Canonical digits exponent) (canonical' : g.Canonical digits' exponent')
    (negative : Bool) (some : 0 < digits)
    (same : (digits : ℚ) * 2 ^ exponent = digits' * 2 ^ exponent') :
    (finite negative digits exponent canonical).convert =
      finite negative digits' exponent' canonical' := by
  rw [convert]
  split
  · next nonneg =>
    refine ofRatio_of_canonical canonical' negative (Nat.mul_pos some (twoTo_pos _)) one_pos ?_
    rw [← same, Nat.cast_mul, cast_twoTo, Int.toNat_of_nonneg nonneg, Nat.cast_one, div_one]
  · next negative_exponent =>
    refine ofRatio_of_canonical canonical' negative some (twoTo_pos _) ?_
    rw [← same, cast_twoTo, Int.toNat_of_nonneg (by omega), zpow_neg, div_inv_eq_mul]

end Binary

namespace BinaryFormat

/-- Every number of the one format is one of the other. -/
structure Within (f g : BinaryFormat) : Prop where
  precision : f.precision ≤ g.precision
  lowest : g.lowest ≤ f.lowest
  highest : f.highest ≤ g.highest

theorem single_within_double : single.Within double :=
  ⟨by decide, by decide, by decide⟩

/-- A number of the smaller format in the greater one: its digits are followed by as many zeros
as there is room for. -/
theorem Within.canonical {f g : BinaryFormat} (within : f.Within g) {digits : Nat} {exponent : Int}
    (canonical : f.Canonical digits exponent) (some : 0 < digits) :
    ∃ digits' exponent', g.Canonical digits' exponent' ∧
      (digits : ℚ) * 2 ^ exponent = digits' * 2 ^ exponent' := by
  obtain ⟨below, least, greatest, -⟩ := canonical
  have low : twoTo digits.log2 ≤ digits := Nat.log2_self_le (by omega)
  have high : digits < twoTo (digits.log2 + 1) := Nat.lt_log2_self
  have few : digits.log2 + 1 ≤ f.precision := by
    by_contra many
    have : twoTo f.precision ≤ twoTo digits.log2 := Nat.pow_le_pow_right (by decide) (by omega)
    omega
  have := within.precision
  have := within.lowest
  have := within.highest
  obtain ⟨room, is⟩ : ∃ room : Nat,
      room = min (g.precision - 1 - digits.log2) (exponent - g.lowest).toNat := ⟨_, rfl⟩
  refine ⟨digits * twoTo room, exponent - room, ⟨?_, by omega, by omega, ?_⟩, ?_⟩
  · calc digits * twoTo room < twoTo (digits.log2 + 1) * twoTo room :=
          Nat.mul_lt_mul_of_pos_right high (twoTo_pos _)
      _ = twoTo (digits.log2 + 1 + room) := (twoTo_add _ _).symm
      _ ≤ twoTo g.precision := Nat.pow_le_pow_right (by decide) (by omega)
  · rcases Nat.le_total (g.precision - 1 - digits.log2) (exponent - g.lowest).toNat with less | more
    · left
      calc twoTo (g.precision - 1) = twoTo digits.log2 * twoTo room := by
            rw [← twoTo_add]
            exact congrArg twoTo (by omega)
        _ ≤ digits * twoTo room := Nat.mul_le_mul_right _ low
    · right
      omega
  · rw [Nat.cast_mul, cast_twoTo, mul_assoc, ← zpow_add₀ two_ne_zero, add_sub_cancel]

end BinaryFormat

namespace Binary

variable {f g : BinaryFormat}

/-- A number comes back unchanged from a format that holds all numbers of its own. -/
theorem convert_convert (within : f.Within g) (x : Binary f) :
    ((x.convert : Binary g).convert : Binary f) = x := by
  cases x with
  | nan | infinite _ => rfl
  | finite negative digits exponent canonical =>
    rcases Nat.eq_zero_or_pos digits with rfl | some
    · rw [eq_zero_of_canonical canonical, convert_zero, convert_zero]
    · obtain ⟨digits', exponent', canonical', same⟩ := within.canonical canonical some
      have some' : 0 < digits' := by
        have left : (0 : ℚ) < digits * 2 ^ exponent :=
          mul_pos (Nat.cast_pos.mpr some) (zpow_pos two_pos _)
        rw [same] at left
        exact Nat.cast_pos.mp (pos_of_mul_pos_left left (zpow_pos two_pos _).le)
      rw [convert_of_canonical canonical canonical' negative some same,
        convert_of_canonical canonical' canonical negative some' same.symm]

/-- In its own format a number stays what it is. -/
theorem convert_self (x : Binary f) : (x.convert : Binary f) = x := by
  cases x with
  | nan | infinite _ => rfl
  | finite negative digits exponent canonical =>
    rcases Nat.eq_zero_or_pos digits with rfl | some
    · rw [eq_zero_of_canonical canonical, convert_zero]
    · exact convert_of_canonical canonical canonical negative some rfl

end Binary

end RecordRules

import RecordRules.Proofs.Number.Overflow

/-!
# Nearest numbers

Rounding gives the number nearest to a fraction: no finite number of the format is nearer, whatever
its exponent and its sign (`Binary.nearest_ofRatio`, `Binary.nearest_ofDecimal`).

Numbers with the exponent that is chosen for the fraction, or with a greater one, are whole in units
of that exponent, and the quotient is rounded to the nearest whole number.  Those with a lesser
exponent lie below a whole number that is still at most the fraction.
-/

namespace RecordRules

/-! ## Rounding a quotient -/

theorem roundHalfEven_half (num : Nat) {den : Nat} (pos : 0 < den) :
    |(num : ℚ) / den - roundHalfEven num den| ≤ 1 / 2 := by
  have pos' : (0 : ℚ) < den := Nat.cast_pos.mpr pos
  have near : 2 * num ≤ 2 * (roundHalfEven num den * den) + den ∧
      2 * (roundHalfEven num den * den) ≤ 2 * num + den := by
    have parts := Nat.div_add_mod num den
    have below := Nat.mod_lt num pos
    rw [Nat.mul_comm] at parts
    dsimp only [roundHalfEven]
    generalize num / den = quotient at parts ⊢
    generalize num % den = rest at parts below ⊢
    split
    · omega
    split
    · rw [Nat.add_mul]
      omega
    · rcases Nat.mod_two_eq_zero_or_one quotient with even | odd
      · rw [even, Nat.add_zero]
        omega
      · rw [odd, Nat.add_mul]
        omega
  obtain ⟨low, high⟩ := near
  generalize roundHalfEven num den = n at low high ⊢
  have low' : (2 * num : ℚ) ≤ 2 * (n * den) + den := by exact_mod_cast low
  have high' : (2 * (n * den) : ℚ) ≤ 2 * num + den := by exact_mod_cast high
  rw [abs_le, div_sub' pos'.ne', le_div_iff₀ pos', div_le_iff₀ pos']
  constructor <;> linarith

/-- No whole number is nearer to a quotient than the one it is rounded to. -/
theorem roundHalfEven_nearest (num : Nat) {den : Nat} (pos : 0 < den) (k : Nat) :
    |(num : ℚ) / den - roundHalfEven num den| ≤ |(num : ℚ) / den - k| := by
  have half := roundHalfEven_half num pos
  generalize roundHalfEven num den = n at half ⊢
  rcases eq_or_ne n k with rfl | other
  · exact le_rfl
  · have apart : (1 : ℚ) ≤ |(n : ℚ) - k| := by
      have apart : (1 : Int) ≤ |(n : Int) - k| := Int.one_le_abs (by omega)
      exact_mod_cast apart
    have triangle := abs_sub_le (n : ℚ) (num / den) k
    rw [abs_sub_comm (n : ℚ) (num / den)] at triangle
    linarith

namespace Binary

variable {f : BinaryFormat} {num den : Nat}

/-! ## Values -/

/-- The fraction that a finite number is. -/
def value (x : Binary f) : ℚ :=
  x.units.getD 0 * 2 ^ f.lowest

/-- A finite number, to which no other one of its format is nearer than the fraction is. -/
structure Nearest (fraction : ℚ) (x : Binary f) : Prop where
  finite : x.isFinite = true
  nearest : ∀ y : Binary f, y.isFinite = true → |fraction - x.value| ≤ |fraction - y.value|

/-- A magnitude with a sign. -/
def signed (negative : Bool) (magnitude : ℚ) : ℚ :=
  if negative then -magnitude else magnitude

theorem value_finite (negative : Bool) {digits : Nat} {exponent : Int}
    (canonical : f.Canonical digits exponent) :
    (finite negative digits exponent canonical).value =
      signed negative (digits * 2 ^ exponent) := by
  have scale : (2 : ℚ) ^ (exponent - f.lowest) * 2 ^ f.lowest = 2 ^ exponent := by
    rw [← zpow_add₀ two_ne_zero, sub_add_cancel]
  have nonneg : 0 ≤ exponent - f.lowest := by
    have := canonical.2.1
    omega
  have power : (twoTo (exponent - f.lowest).toNat : ℚ) = 2 ^ (exponent - f.lowest) := by
    rw [cast_twoTo, Int.toNat_of_nonneg nonneg]
  rw [value, units, Option.getD_some, signed, ← scale, ← power]
  cases negative with
  | true =>
    rw [if_pos rfl, if_pos rfl]
    push_cast
    ring
  | false =>
    rw [if_neg Bool.false_ne_true, if_neg Bool.false_ne_true]
    push_cast
    ring

/-- Magnitudes are no farther apart than they are with signs. -/
theorem abs_sub_signed_self (negative : Bool) (a b : ℚ) :
    |signed negative a - signed negative b| = |a - b| := by
  cases negative with
  | true => exact (congrArg abs (neg_sub_neg a b)).trans (abs_sub_comm b a)
  | false => rfl

theorem abs_sub_le_signed (negative negative' : Bool) {a b : ℚ} (nonneg : 0 ≤ a)
    (nonneg' : 0 ≤ b) : |a - b| ≤ |signed negative a - signed negative' b| := by
  have sum : |a - b| ≤ |a + b| := by
    rw [abs_of_nonneg (add_nonneg nonneg nonneg'), abs_le]
    constructor <;> linarith
  cases negative <;> cases negative'
  · exact le_rfl
  · change _ ≤ |a - -b|
    rwa [sub_neg_eq_add]
  · change _ ≤ |-a - b|
    rwa [← neg_add', abs_neg]
  · exact (abs_sub_signed_self true a b).ge

/-- So it is enough to compare magnitudes. -/
theorem nearest_of_magnitudes (negative : Bool) {digits : Nat} {exponent : Int}
    (canonical : f.Canonical digits exponent) {magnitude : ℚ} (nonneg : 0 ≤ magnitude)
    (nearest : ∀ digits' exponent', f.Canonical digits' exponent' →
      |magnitude - digits * 2 ^ exponent| ≤ |magnitude - digits' * 2 ^ exponent'|) :
    Nearest (signed negative magnitude) (finite negative digits exponent canonical) where
  finite := rfl
  nearest y is := by
    match y, is with
    | .finite negative' digits' exponent' canonical', _ =>
      have nonneg' : (0 : ℚ) ≤ digits' * 2 ^ exponent' := by positivity
      rw [value_finite, value_finite, abs_sub_signed_self]
      exact (nearest digits' exponent' canonical').trans
        (abs_sub_le_signed negative negative' nonneg nonneg')

/-! ## Rounding a fraction -/

/-- No multiple of the chosen power of two is nearer to a fraction than the digits kept. -/
theorem keptDigits_nearest (f : BinaryFormat) (num : Nat) (pos : 0 < den) (k : Nat) :
    |(num : ℚ) / den - keptDigits f num den * 2 ^ exponentFor f num den| ≤
      |(num : ℚ) / den - k * 2 ^ exponentFor f num den| := by
  have near := roundHalfEven_nearest (inUnitsOf (exponentFor f num den) num den).1
    (inUnitsOf_pos (exponentFor f num den) num pos) k
  rw [← keptDigits, inUnitsOf_eq] at near
  generalize keptDigits f num den = n at near ⊢
  generalize exponentFor f num den = exponent at near ⊢
  have power : (0 : ℚ) < 2 ^ exponent := zpow_pos two_pos exponent
  have scaled (m : Nat) : |(num : ℚ) / den - m * 2 ^ exponent| =
      |(num : ℚ) / den / 2 ^ exponent - m| * 2 ^ exponent := by
    rw [← abs_of_pos power, ← abs_mul, abs_of_pos power, sub_mul, div_mul_cancel₀ _ power.ne']
  rw [scaled, scaled]
  gcongr

/-- Nor is any number of the format. -/
theorem keptDigits_nearest_canonical (keeps : 0 < f.precision) (some : 0 < num) (pos : 0 < den)
    {digits : Nat} {exponent : Int} (canonical : f.Canonical digits exponent) :
    |(num : ℚ) / den - keptDigits f num den * 2 ^ exponentFor f num den| ≤
      |(num : ℚ) / den - digits * 2 ^ exponent| := by
  obtain ⟨below, least, -, -⟩ := canonical
  rcases Int.lt_or_le exponent (exponentFor f num den) with down | up
  · -- The number is less than the least one with all digits at the chosen exponent.
    obtain ⟨exact, is, low, -⟩ := exponentFor_spec f some pos
    have near := keptDigits_nearest f num pos (twoTo (f.precision - 1))
    obtain rfl : exponentFor f num den = exact := by omega
    have full : (twoTo (f.precision - 1) : ℚ) * 2 ^ exponentFor f num den =
        2 ^ (exponentFor f num den + f.precision - 1) := by
      rw [cast_twoTo, ← zpow_add₀ two_ne_zero]
      exact congrArg _ (by omega)
    have less : (digits : ℚ) * 2 ^ exponent ≤ 2 ^ (exponentFor f num den + f.precision - 1) :=
      calc (digits : ℚ) * 2 ^ exponent ≤ twoTo f.precision * 2 ^ exponent := by gcongr
        _ = 2 ^ (f.precision + exponent) := by rw [cast_twoTo, ← zpow_add₀ two_ne_zero]
        _ ≤ 2 ^ (exponentFor f num den + f.precision - 1) :=
          zpow_le_zpow_right₀ one_le_two (by omega)
    rw [full, abs_of_nonneg (sub_nonneg.mpr low)] at near
    refine near.trans ?_
    rw [abs_of_nonneg (sub_nonneg.mpr (less.trans low))]
    linarith
  · have multiple : (digits : ℚ) * 2 ^ exponent =
        (digits * twoTo (exponent - exponentFor f num den).toNat : Nat) *
          2 ^ exponentFor f num den := by
      rw [Nat.cast_mul, cast_twoTo, Int.toNat_of_nonneg (by omega), mul_assoc,
        ← zpow_add₀ two_ne_zero, sub_add_cancel]
    rw [multiple]
    exact keptDigits_nearest f num pos _

theorem nearest_zero (negative : Bool) {magnitude : ℚ} (nonneg : 0 ≤ magnitude)
    (small : ∀ digits exponent, f.Canonical digits exponent →
      magnitude ≤ |magnitude - digits * 2 ^ exponent|) :
    Nearest (signed negative magnitude) (zero negative : Binary f) := by
  refine nearest_of_magnitudes negative f.canonical_zero nonneg fun digits exponent canonical => ?_
  rw [Nat.cast_zero, zero_mul, sub_zero, abs_of_nonneg nonneg]
  exact small digits exponent canonical

/-- A fraction is rounded to the nearest number, if it is not too large. -/
theorem nearest_ofRatio (keeps : 0 < f.precision) (negative : Bool) (num : Nat) (pos : 0 < den)
    (finite : (ofRatio negative num den : Binary f).isFinite = true) :
    Nearest (signed negative (num / den)) (ofRatio negative num den : Binary f) := by
  have nonneg : (0 : ℚ) ≤ num / den := div_nonneg (Nat.cast_nonneg _) (Nat.cast_nonneg _)
  rcases Nat.eq_zero_or_pos num with rfl | some
  · refine nearest_zero negative nonneg fun digits exponent _ => ?_
    rw [Nat.cast_zero, zero_div]
    exact abs_nonneg _
  have nearest : ∀ digits exponent, f.Canonical digits exponent → _ :=
    fun digits exponent => keptDigits_nearest_canonical keeps some pos
  rw [ofRatio_of_pos negative some] at finite ⊢
  split at finite
  · next full =>
    rw [if_pos full]
    have canonical := isFinite_ofCanonical.mp finite
    rw [ofCanonical, dif_pos canonical]
    have same : (twoTo (f.precision - 1) : ℚ) * 2 ^ (exponentFor f num den + 1) =
        keptDigits f num den * 2 ^ exponentFor f num den := by
      rw [full, cast_twoTo, cast_twoTo, ← zpow_add₀ two_ne_zero, ← zpow_add₀ two_ne_zero]
      exact congrArg _ (by omega)
    refine nearest_of_magnitudes negative canonical nonneg ?_
    rw [same]
    exact nearest
  · next other =>
    rw [if_neg other]
    have canonical := isFinite_ofCanonical.mp finite
    rw [ofCanonical, dif_pos canonical]
    exact nearest_of_magnitudes negative canonical nonneg nearest

/-! ## Rounding a decimal -/

/-- A magnitude below `10 ^ (-400)` is nearer to zero than to any other double. -/
theorem tiny_nearest {magnitude : ℚ}
    (tiny : magnitude ≤ 10 ^ (-400 : Int)) {digits : Nat} {exponent : Int}
    (canonical : BinaryFormat.double.Canonical digits exponent) :
    magnitude ≤ |magnitude - digits * 2 ^ exponent| := by
  rcases Nat.eq_zero_or_pos digits with rfl | some
  · rw [Nat.cast_zero, zero_mul, sub_zero]
    exact le_abs_self magnitude
  have lowest : -1074 ≤ exponent := canonical.2.1
  have half : (10 : ℚ) ^ (-400 : Int) ≤ 2 ^ (-1075 : Int) := by
    rw [zpow_neg, zpow_neg]
    refine inv_anti₀ (by positivity) ?_
    calc (2 : ℚ) ^ (1075 : Int) = (2 ^ 43) ^ 25 := by rw [← pow_mul]; rfl
      _ ≤ (10 ^ 16) ^ 25 := by gcongr; norm_num
      _ = 10 ^ (400 : Int) := by rw [← pow_mul]; rfl
  have one : (1 : ℚ) ≤ digits := Nat.one_le_cast.mpr some
  have least : (2 : ℚ) ^ (-1074 : Int) ≤ digits * 2 ^ exponent :=
    calc (2 : ℚ) ^ (-1074 : Int) ≤ 2 ^ exponent := zpow_le_zpow_right₀ one_le_two lowest
      _ ≤ digits * 2 ^ exponent := le_mul_of_one_le_left (by positivity) one
  have twice : (2 : ℚ) ^ (-1074 : Int) = 2 ^ (-1075 : Int) * 2 :=
    zpow_add_one₀ two_ne_zero (-1075)
  rw [abs_sub_comm]
  refine le_trans ?_ (le_abs_self _)
  linarith

/-- A decimal is rounded to the nearest double, if it is not too large. -/
theorem nearest_ofDecimal (negative : Bool) (digits : Nat) (exponent : Int)
    (finite : (ofDecimal negative digits exponent : Double).isFinite = true) :
    Nearest (signed negative (digits * 10 ^ exponent))
      (ofDecimal negative digits exponent : Double) := by
  have nonneg : (0 : ℚ) ≤ digits * 10 ^ exponent := by positivity
  rcases ofDecimal_cases negative digits exponent with
    ⟨num, den, pos, same, is⟩ | ⟨tiny, is⟩ | ⟨-, is⟩
  · rw [is] at finite ⊢
    rw [← same]
    exact nearest_ofRatio (by decide) negative num pos finite
  · rw [is]
    exact nearest_zero negative nonneg fun _ _ => tiny_nearest tiny
  · rw [is] at finite
    cases finite

end Binary

end RecordRules

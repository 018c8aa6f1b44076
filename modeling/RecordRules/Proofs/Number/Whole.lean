import Mathlib.Tactic.ByContra
import Mathlib.Tactic.Ring
import RecordRules.Number.Layout
import RecordRules.Proofs.Number.Digits
import RecordRules.Proofs.Number.Fraction

/-!
# Whole numbers as doubles

A double holds every integer up to `2 ^ 53` exactly, and its text is that of the integer
(`text_ofInt`).  The shortest decimal of such a number is the number without the zeros at
its end, because between the ends of the rounding interval there is no other whole number
that the search would come across: the interval reaches half a unit to either side, except
at `2 ^ 53` itself, where its upper end is the next whole number.
-/

namespace RecordRules

/-- The greatest magnitude up to which every integer is a double. -/
def greatestExact : Nat :=
  twoTo 53

/-! ## Powers and quotients -/

theorem tenTo_pos (exponent : Nat) : 0 < tenTo exponent :=
  Nat.pow_pos (by decide)

theorem tenTo_succ (exponent : Nat) : tenTo (exponent + 1) = tenTo exponent * 10 :=
  Nat.pow_succ (n := 10) (m := exponent)

theorem tenTo_neg_natCast (k : Nat) : tenTo (-(k : Int)).toNat = 1 := by
  rw [show (-(k : Int)).toNat = 0 by omega]
  rfl

theorem inUnitsOf_of_nonpos {exponent : Int} (nonpos : exponent ≤ 0) (n : Nat) :
    inUnitsOf exponent n 1 = (n * twoTo (-exponent).toNat, 1) := by
  rw [inUnitsOf]
  split
  · next nonneg =>
    obtain rfl : exponent = 0 := by omega
    simp [twoTo]
  · rfl

/-! ## Integers are held exactly -/

/-- The number `n` is `digits * 2 ^ exponent`. -/
def IsWhole (n digits : Nat) (exponent : Int) : Prop :=
  exponent ≤ 0 ∧ digits = n * twoTo (-exponent).toNat ∨
    exponent = 1 ∧ digits = twoTo 52 ∧ n = greatestExact

/-- With all the digits that the format keeps. -/
theorem scaled_bounds {n : Nat} (pos : 0 < n) (small : n < greatestExact) :
    n.log2 ≤ 52 ∧ twoTo 52 ≤ n * twoTo (52 - n.log2) ∧ n * twoTo (52 - n.log2) < twoTo 53 := by
  have low : twoTo n.log2 ≤ n := Nat.log2_self_le (by omega)
  have high : n < twoTo (n.log2 + 1) := Nat.lt_log2_self
  have top : n.log2 ≤ 52 := by
    by_contra above
    have : twoTo 53 ≤ twoTo n.log2 := Nat.pow_le_pow_right (by decide) (by omega)
    rw [greatestExact] at small
    omega
  refine ⟨top, ?_, ?_⟩
  · calc twoTo 52 = twoTo n.log2 * twoTo (52 - n.log2) := by rw [← twoTo_add]; congr 1; omega
      _ ≤ n * twoTo (52 - n.log2) := Nat.mul_le_mul_right _ low
  · calc n * twoTo (52 - n.log2) < twoTo (n.log2 + 1) * twoTo (52 - n.log2) :=
        Nat.mul_lt_mul_of_pos_right high (twoTo_pos _)
      _ = twoTo 53 := by rw [← twoTo_add]; congr 1; omega

/-- The exponent at which an integer has 53 binary digits. -/
theorem exponentFor_whole {n : Nat} (pos : 0 < n) :
    Binary.exponentFor .double n 1 = n.log2 - 52 := by
  have precision : (BinaryFormat.double.precision : Int) = 53 := rfl
  have lowest : BinaryFormat.double.lowest = -1074 := rfl
  obtain ⟨exponent, is, low, high⟩ := Binary.exponentFor_spec .double pos one_pos
  rw [Nat.cast_one, div_one] at low high
  obtain ⟨low', high'⟩ := log2_bounds pos
  have below := (zpow_lt_zpow_iff_right₀ one_lt_two).mp (low.trans_lt high')
  have above := (zpow_lt_zpow_iff_right₀ one_lt_two).mp (low'.trans_lt high)
  omega

/-- Integers below `2 ^ 53` need no more digits than there are. -/
theorem ofRatio_of_lt {n : Nat} (pos : 0 < n) (small : n < greatestExact) (negative : Bool) :
    ∃ digits exponent canonical, (Binary.ofRatio negative n 1 : Double) =
      .finite negative digits exponent canonical ∧ IsWhole n digits exponent := by
  obtain ⟨top, low, high⟩ := scaled_bounds pos small
  have scale : (-((n.log2 : Int) - 52)).toNat = 52 - n.log2 := by omega
  have canonical : BinaryFormat.double.Canonical (n * twoTo (52 - n.log2)) (n.log2 - 52) := by
    refine ⟨high, ?_, ?_, .inl low⟩
    · change (-1074 : Int) ≤ _
      omega
    · change _ ≤ (971 : Int)
      omega
  have same : (n : ℚ) / (1 : Nat) =
      (n * twoTo (52 - n.log2) : Nat) * 2 ^ ((n.log2 : Int) - 52) := by
    have cancels : ((52 - n.log2 : Nat) : Int) + (n.log2 - 52) = 0 := by omega
    rw [Nat.cast_mul, cast_twoTo, mul_assoc, ← zpow_add₀ two_ne_zero, cancels, zpow_zero,
      Nat.cast_one, div_one, mul_one]
  exact ⟨_, _, canonical, Binary.ofRatio_of_canonical canonical negative pos one_pos same,
    .inl ⟨by omega, by rw [scale]⟩⟩

/-- So does `2 ^ 53`, with one digit fewer. -/
theorem ofRatio_whole {n : Nat} (pos : 0 < n) (small : n ≤ greatestExact) (negative : Bool) :
    ∃ digits exponent canonical, (Binary.ofRatio negative n 1 : Double) =
      .finite negative digits exponent canonical ∧ IsWhole n digits exponent := by
  rcases Nat.lt_or_eq_of_le small with less | rfl
  · exact ofRatio_of_lt pos less negative
  · exact ⟨twoTo 52, 1, by decide, by cases negative <;> rfl, .inr ⟨rfl, rfl, rfl⟩⟩

/-! ## The shortest decimal of a whole number -/

/-- The interval lies around a whole number and holds no other, except perhaps the next one;
if it does, that one does not end in zero. -/
structure RoundingInterval.Surrounds (i : RoundingInterval) (n : Nat) : Prop where
  middle : i.middle = n * i.unit
  low : i.low < i.middle ∧ i.middle < i.low + i.unit
  high : i.middle < i.high ∧ (i.high < i.middle + i.unit ∨
    i.high < i.middle + 2 * i.unit ∧ (n + 1) % 10 ≠ 0)

/-- Below a power of two the interval is narrower. -/
theorem low_around (f : BinaryFormat) (digits : Nat) (exponent : Int) :
    ∃ below, (below = 1 ∨ below = 2) ∧ (RoundingInterval.around f digits exponent).low =
      (4 * digits - below) * twoTo (exponent - 2).toNat := by
  refine ⟨if digits = twoTo (f.precision - 1) then 1 else 2, ?_, rfl⟩
  split
  · exact .inl rfl
  · exact .inr rfl

theorem surrounds_around {n digits : Nat} {exponent : Int} (pos : 0 < n)
    (whole : IsWhole n digits exponent) :
    (RoundingInterval.around .double digits exponent).Surrounds n := by
  rcases whole with ⟨nonpos, rfl⟩ | ⟨rfl, rfl, rfl⟩
  · have scale : twoTo (exponent - 2).toNat = 1 := by
      rw [show (exponent - 2).toNat = 0 by omega]
      rfl
    have unit : twoTo (2 - exponent).toNat = 4 * twoTo (-exponent).toNat := by
      rw [show (2 - exponent).toNat = 2 + (-exponent).toNat by omega, twoTo_add]
      rfl
    obtain ⟨below, few, low⟩ :=
      low_around .double (n * twoTo (-exponent).toNat) exponent
    have some_digit : 0 < n * twoTo (-exponent).toNat := Nat.mul_pos pos (twoTo_pos _)
    have some_unit := twoTo_pos (-exponent).toNat
    rw [scale] at low
    constructor
    · simp only [RoundingInterval.around, scale, unit]
      ring
    · rw [low]
      simp only [RoundingInterval.around, scale, unit]
      omega
    · simp only [RoundingInterval.around, scale, unit]
      omega
  · exact ⟨by decide +kernel, by decide +kernel, by decide +kernel⟩

namespace RoundingInterval

theorem holds_natCast (i : RoundingInterval) (point k : Nat) :
    i.Holds point k = if i.closed
      then decide (i.low ≤ point * (i.unit * tenTo k)) &&
        decide (point * (i.unit * tenTo k) ≤ i.high)
      else decide (i.low < point * (i.unit * tenTo k)) &&
        decide (point * (i.unit * tenTo k) < i.high) := by
  simp only [Holds, tenTo_neg_natCast, Nat.mul_one, Int.toNat_natCast]

namespace Surrounds

variable {i : RoundingInterval} {n : Nat}

theorem unit_pos (around : i.Surrounds n) : 0 < i.unit := by
  rcases around.low with ⟨low, high⟩
  omega

/-- The grid point below the number. -/
theorem middle_div (around : i.Surrounds n) (k : Nat) :
    i.middle / (i.unit * tenTo k) = n / tenTo k := by
  rw [around.middle, Nat.mul_comm n, Nat.mul_div_mul_left _ _ around.unit_pos]

/-- The number lies in the interval. -/
theorem holds_of_dvd (around : i.Surrounds n) {k : Nat} (divides : tenTo k ∣ n) :
    i.Holds (n / tenTo k) k = true := by
  have place : n / tenTo k * (i.unit * tenTo k) = i.middle := by
    rw [around.middle, Nat.mul_comm i.unit, ← Nat.mul_assoc, Nat.div_mul_cancel divides]
  have low := around.low.1
  have high := around.high.1
  rw [holds_natCast, place]
  split
  all_goals
    simp only [Bool.and_eq_true, decide_eq_true_eq]
    omega

theorem not_holds_below (around : i.Surrounds n) {k : Nat} (not_divides : ¬ tenTo k ∣ n) :
    i.Holds (n / tenTo k) k = false := by
  have rest : 1 ≤ n % tenTo k := Nat.pos_of_ne_zero fun zero =>
    not_divides (Nat.dvd_of_mod_eq_zero zero)
  have place : n / tenTo k * (i.unit * tenTo k) + i.unit ≤ i.middle := by
    calc n / tenTo k * (i.unit * tenTo k) + i.unit
        ≤ n / tenTo k * (i.unit * tenTo k) + n % tenTo k * i.unit :=
          Nat.add_le_add_left (Nat.le_mul_of_pos_left _ rest) _
      _ = (tenTo k * (n / tenTo k) + n % tenTo k) * i.unit := by ring
      _ = i.middle := by rw [Nat.div_add_mod, around.middle]
  have low := around.low.2
  rw [holds_natCast]
  split
  all_goals
    simp only [Bool.and_eq_false_iff, decide_eq_false_iff_not]
    omega

/-- If the next grid point is the next number, it ends in zero. -/
theorem not_holds_above (around : i.Surrounds n) {k : Nat} (not_divides : ¬ tenTo k ∣ n) :
    i.Holds (n / tenTo k + 1) k = false := by
  have below : n % tenTo k < tenTo k := Nat.mod_lt _ (tenTo_pos k)
  have split_n : tenTo k * (n / tenTo k) + n % tenTo k = n := Nat.div_add_mod n (tenTo k)
  have place : (n / tenTo k + 1) * (i.unit * tenTo k) =
      i.middle + (tenTo k - n % tenTo k) * i.unit := by
    calc (n / tenTo k + 1) * (i.unit * tenTo k)
        = (tenTo k * (n / tenTo k) + tenTo k) * i.unit := by ring
      _ = (n + (tenTo k - n % tenTo k)) * i.unit := by congr 1; omega
      _ = i.middle + (tenTo k - n % tenTo k) * i.unit := by rw [around.middle]; ring
  have beyond : i.high < i.middle + (tenTo k - n % tenTo k) * i.unit := by
    rcases around.high.2 with near | ⟨near, last⟩
    · have : i.unit ≤ (tenTo k - n % tenTo k) * i.unit := Nat.le_mul_of_pos_left _ (by omega)
      omega
    · have two : 2 ≤ tenTo k - n % tenTo k := by
        cases k with
        | zero => exact absurd (Nat.one_dvd n) not_divides
        | succ k =>
          have ends : tenTo (k + 1) ∣ n + (tenTo (k + 1) - n % tenTo (k + 1)) :=
            ⟨n / tenTo (k + 1) + 1, by rw [Nat.mul_add]; omega⟩
          have ten : 10 ∣ tenTo (k + 1) := ⟨tenTo k, by rw [tenTo_succ, Nat.mul_comm]⟩
          have ends := ten.trans ends
          omega
      have : 2 * i.unit ≤ (tenTo k - n % tenTo k) * i.unit := Nat.mul_le_mul_right _ two
      omega
  rw [holds_natCast, place]
  split
  all_goals
    simp only [Bool.and_eq_false_iff, decide_eq_false_iff_not]
    omega

/-- On a grid, the search finds the number or nothing. -/
theorem pointAt_of_dvd (around : i.Surrounds n) {k : Nat} (divides : tenTo k ∣ n) :
    i.pointAt k = some (n / tenTo k) := by
  have place : n / tenTo k * (i.unit * tenTo k) = i.middle := by
    rw [around.middle, Nat.mul_comm i.unit, ← Nat.mul_assoc, Nat.div_mul_cancel divides]
  have step : 0 < i.unit * tenTo k := Nat.mul_pos around.unit_pos (tenTo_pos k)
  have farther : ¬ (n / tenTo k + 1) * (i.unit * tenTo k) - i.middle ≤
      i.middle - n / tenTo k * (i.unit * tenTo k) := by
    rw [Nat.add_mul, place]
    omega
  simp only [pointAt, tenTo_neg_natCast, Nat.mul_one, Int.toNat_natCast, around.middle_div,
    around.holds_of_dvd divides, if_neg farther]
  cases i.Holds (n / tenTo k + 1) k <;> rfl

theorem pointAt_of_not_dvd (around : i.Surrounds n) {k : Nat} (not_divides : ¬ tenTo k ∣ n) :
    i.pointAt k = none := by
  simp only [pointAt, tenTo_neg_natCast, Nat.mul_one, Int.toNat_natCast, around.middle_div,
    around.not_holds_below not_divides, around.not_holds_above not_divides]

/-- From any grid of whole numbers down, the search ends at the number. -/
theorem search_eq (around : i.Surrounds n) {k steps : Nat} (enough : k < steps) :
    ∃ point j : Nat, i.search steps k = ⟨point, j⟩ ∧ point * tenTo j = n := by
  induction k generalizing steps with
  | zero =>
    obtain ⟨steps, rfl⟩ := Nat.exists_eq_succ_of_ne_zero (by omega : steps ≠ 0)
    have divides : tenTo 0 ∣ n := Nat.one_dvd n
    refine ⟨n / tenTo 0, 0, ?_, Nat.div_mul_cancel divides⟩
    rw [search, around.pointAt_of_dvd divides]
  | succ k ih =>
    obtain ⟨steps, rfl⟩ := Nat.exists_eq_succ_of_ne_zero (by omega : steps ≠ 0)
    rw [search]
    by_cases divides : tenTo (k + 1) ∣ n
    · rw [around.pointAt_of_dvd divides]
      exact ⟨n / tenTo (k + 1), k + 1, rfl, Nat.div_mul_cancel divides⟩
    · rw [around.pointAt_of_not_dvd divides]
      have next : ((k + 1 : Nat) : Int) - 1 = k := by omega
      dsimp only
      rw [next]
      exact ih (by omega)

theorem shortest_eq (around : i.Surrounds n) (pos : 0 < n) (small : n ≤ greatestExact) :
    ∃ point j : Nat, i.shortest = ⟨point, j⟩ ∧ point * tenTo j = n := by
  have whole : i.unit ≤ i.middle := by
    rw [around.middle]
    exact Nat.le_mul_of_pos_left _ pos
  have top : i.topExponent = ((Nat.toDigits 10 n).length : Nat) := by
    rw [topExponent, if_pos whole, around.middle, Nat.mul_div_cancel _ around.unit_pos]
  have few : (Nat.toDigits 10 n).length ≤ 16 := by
    rw [Nat.length_toDigits_le_iff (by decide) (by decide)]
    have : greatestExact < 10 ^ 16 := by decide
    omega
  rw [shortest, top]
  exact around.search_eq (by omega)

end Surrounds

end RoundingInterval

/-! ## Texts -/

theorem toDigits_mul_tenTo {point : Nat} (pos : 0 < point) (k : Nat) :
    Nat.toDigits 10 (point * tenTo k) = Nat.toDigits 10 point ++ Decimal.zeros k := by
  induction k with
  | zero => simp [tenTo, Decimal.zeros]
  | succ k ih =>
    have scaled_pos : 0 < point * tenTo k := Nat.mul_pos pos (tenTo_pos k)
    have longer : point * tenTo (k + 1) = 10 * (point * tenTo k) + 0 := by
      rw [tenTo_succ]
      ring
    rw [longer, ← Nat.toDigits_append_toDigits (by decide) scaled_pos (by decide), ih,
      Nat.toDigits_zero, List.append_assoc]
    congr 1
    exact List.replicate_succ'.symm

theorem layout_decimal {point j n : Nat} (is : point * tenTo j = n) (pos : 0 < n) :
    (Decimal.mk point j).layout .plain = Nat.toDigits 10 n := by
  have point_pos : 0 < point := by
    rcases Nat.eq_zero_or_pos point with rfl | positive
    · omega
    · exact positive
  simp [Decimal.layout, NumberStyle.plain, Decimal.positionalText, ← is,
    toDigits_mul_tenTo point_pos]

/-- The text of an integer that a double holds exactly is that of the integer. -/
theorem text_ofInt {n : Int} (exact : n.natAbs ≤ greatestExact) :
    (Binary.ofInt n : Double).text.toList = integerChars n := by
  rw [Binary.text, String.toList_ofList, Binary.ofInt]
  rcases Nat.eq_zero_or_pos n.natAbs with zero | pos
  · obtain rfl : n = 0 := by omega
    rfl
  · obtain ⟨digits, exponent, canonical, is, whole⟩ := ofRatio_whole pos exact (decide (n < 0))
    have surrounds := surrounds_around pos whole
    obtain ⟨point, j, shortest, value⟩ := surrounds.shortest_eq pos exact
    have some_digit : digits ≠ 0 := by
      rintro rfl
      have low := surrounds.low
      simp [RoundingInterval.around] at low
    rw [is, Binary.layout, shortestDecimal, shortest, layout_decimal value pos, if_neg some_digit,
      integerChars]
    by_cases negative : n < 0
    · simp [negative]
    · simp [negative]

end RecordRules

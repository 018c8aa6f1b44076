import RecordRules.Proofs.Number.Whole

/-!
# Rounding integers to doubles

The nearest double of an integer keeps the order: of two integers the greater one never gets
the lesser double.  Two integers may get the same double, but only if both lie beyond the
magnitudes up to which every integer is one.

Everything is counted in units of the last place of the smallest doubles.  In these units the
nearest double of a natural number is a multiple of a power of two that depends on the number
of its binary digits (`roundedUnits`).
-/

namespace RecordRules

/-! ## Rounding a quotient -/

/-- Greater numbers are not rounded to lesser ones. -/
theorem roundHalfEven_mono {num num' den : Nat} (pos : 0 < den) (le : num ≤ num') :
    roundHalfEven num den ≤ roundHalfEven num' den := by
  have quotients : num / den ≤ num' / den := Nat.div_le_div_right le
  have rest : num % den < den := Nat.mod_lt _ pos
  have rest' : num' % den < den := Nat.mod_lt _ pos
  have up : ∀ n, n / den ≤ roundHalfEven n den ∧ roundHalfEven n den ≤ n / den + 1 := by
    intro n
    dsimp only [roundHalfEven]
    split
    · omega
    · split <;> omega
  rcases Nat.lt_or_eq_of_le quotients with less | same
  · exact (up num).2.trans (less.trans_le (up num').1)
  · have rests : num % den ≤ num' % den := by
      have split_num := Nat.div_add_mod num den
      have split_num' := Nat.div_add_mod num' den
      rw [same] at split_num
      omega
    dsimp only [roundHalfEven]
    rw [same]
    repeat' split
    all_goals omega

/-! ## Natural numbers -/

/-- The number one, in units of the last place of the smallest doubles. -/
def unitsOfOne : Nat :=
  twoTo 1074

/-- The last place that a double keeps of a number with so many binary digits as this one. -/
def lastPlace (n : Nat) : Nat :=
  twoTo (n.log2 + 1022)

/-- The nearest double of a natural number. -/
def roundedUnits (n : Nat) : Nat :=
  roundHalfEven (n * unitsOfOne) (lastPlace n) * lastPlace n

/-- A number with as many digits as it has lies between these powers of two. -/
theorem units_bounds {n : Nat} (pos : 0 < n) :
    twoTo 52 * lastPlace n ≤ n * unitsOfOne ∧ n * unitsOfOne ≤ twoTo 53 * lastPlace n := by
  have low : twoTo n.log2 ≤ n := Nat.log2_self_le (by omega)
  have high : n ≤ twoTo (n.log2 + 1) := Nat.le_of_lt Nat.lt_log2_self
  rw [lastPlace, unitsOfOne, ← twoTo_add, ← twoTo_add]
  constructor
  · calc twoTo (52 + (n.log2 + 1022)) = twoTo (n.log2 + 1074) := congrArg twoTo (by omega)
      _ = twoTo n.log2 * twoTo 1074 := twoTo_add _ _
      _ ≤ n * twoTo 1074 := Nat.mul_le_mul_right _ low
  · calc n * twoTo 1074 ≤ twoTo (n.log2 + 1) * twoTo 1074 := Nat.mul_le_mul_right _ high
      _ = twoTo (n.log2 + 1 + 1074) := (twoTo_add _ _).symm
      _ = twoTo (53 + (n.log2 + 1022)) := congrArg twoTo (by omega)

theorem lastPlace_pos (n : Nat) : 0 < lastPlace n :=
  twoTo_pos _

/-- The digits that are kept are 53, or those of the next power of two. -/
theorem digits_bounds {n : Nat} (pos : 0 < n) :
    twoTo 52 ≤ roundHalfEven (n * unitsOfOne) (lastPlace n) ∧
      roundHalfEven (n * unitsOfOne) (lastPlace n) ≤ twoTo 53 := by
  obtain ⟨low, high⟩ := units_bounds pos
  have place := lastPlace_pos n
  constructor
  · rw [← roundHalfEven_mul_self (twoTo 52) place]
    exact roundHalfEven_mono place low
  · rw [← roundHalfEven_mul_self (twoTo 53) place]
    exact roundHalfEven_mono place high

/-- The digits that are kept, counted in another way. -/
theorem digits_eq (n : Nat) :
    roundHalfEven (inUnitsOf (n.log2 - 52) n 1).1 (inUnitsOf (n.log2 - 52) n 1).2 =
      roundHalfEven (n * unitsOfOne) (lastPlace n) := by
  rcases Int.le_total (n.log2 - 52) 0 with nonpos | nonneg
  · have scale : (-((n.log2 : Int) - 52)).toNat = 52 - n.log2 := by omega
    have place : unitsOfOne = twoTo (52 - n.log2) * lastPlace n := by
      rw [lastPlace, ← twoTo_add, unitsOfOne]
      exact congrArg twoTo (by omega)
    rw [inUnitsOf_of_nonpos nonpos, scale, place, ← Nat.mul_assoc]
    dsimp only
    rw [roundHalfEven_one, roundHalfEven_mul_self _ (lastPlace_pos n)]
  · have scale : ((n.log2 : Int) - 52).toNat = n.log2 - 52 := by omega
    have place : lastPlace n = twoTo (n.log2 - 52) * unitsOfOne := by
      rw [lastPlace, unitsOfOne, ← twoTo_add]
      exact congrArg twoTo (by omega)
    rw [inUnitsOf, if_pos nonneg, scale, place, Nat.one_mul]
    exact (roundHalfEven_mul _ _ (twoTo_pos 1074)).symm

/-- A finite double in units. -/
theorem units_ofCanonical (negative : Bool) {digits : Nat} {exponent : Int}
    (canonical : BinaryFormat.double.Canonical digits exponent) :
    (Binary.ofCanonical negative digits exponent : Double).units =
      some (if negative then -((digits * twoTo (exponent + 1074).toNat : Nat) : Int)
        else (digits * twoTo (exponent + 1074).toNat : Nat)) := by
  have lowest : exponent - BinaryFormat.double.lowest = exponent + 1074 := by
    change exponent - -1074 = _
    omega
  rw [Binary.ofCanonical, dif_pos canonical, Binary.units, lowest]

/-- The magnitudes that integer fields may have, and more. -/
def greatestWord : Nat :=
  twoTo 64

/-- The nearest double of a natural number, in units. -/
theorem units_ofRatio {n : Nat} (pos : 0 < n) (bounded : n ≤ greatestWord) (negative : Bool) :
    (Binary.ofRatio negative n 1 : Double).units =
      some (if negative then -(roundedUnits n : Int) else roundedUnits n) := by
  obtain ⟨low, high⟩ := digits_bounds pos
  have few : n.log2 ≤ 64 := by
    by_contra above
    have : twoTo 65 ≤ twoTo n.log2 := Nat.pow_le_pow_right (by decide) (by omega)
    have : twoTo n.log2 ≤ n := Nat.log2_self_le (by omega)
    have : greatestWord < twoTo 65 := by decide
    omega
  have precision : BinaryFormat.double.precision = 53 := rfl
  have canonical : ∀ {digits : Nat} {exponent : Int}, twoTo 52 ≤ digits → digits < twoTo 53 →
      -52 ≤ exponent → exponent ≤ 13 → BinaryFormat.double.Canonical digits exponent := by
    intro digits exponent enough below least greatest
    refine ⟨below, ?_, ?_, .inl enough⟩
    · change (-1074 : Int) ≤ _
      omega
    · change _ ≤ (971 : Int)
      omega
  rw [Binary.ofRatio, if_neg (by omega), exponentFor_whole pos, precision]
  dsimp only
  rw [digits_eq, roundedUnits]
  generalize roundHalfEven (n * unitsOfOne) (lastPlace n) = digits at low high ⊢
  split
  · next full =>
    have place : twoTo (53 - 1) * twoTo ((n.log2 : Int) - 52 + 1 + 1074).toNat =
        digits * lastPlace n := by
      rw [full, lastPlace, ← twoTo_add, ← twoTo_add]
      exact congrArg twoTo (by omega)
    have enough : twoTo 52 < twoTo 53 := by decide
    rw [units_ofCanonical negative (canonical (Nat.le_refl _) enough (by omega) (by omega)), place]
  · next partly =>
    have place : twoTo ((n.log2 : Int) - 52 + 1074).toNat = lastPlace n := by
      rw [lastPlace]
      exact congrArg twoTo (by omega)
    have below : digits < twoTo 53 := Nat.lt_of_le_of_ne high partly
    rw [units_ofCanonical negative (canonical low below (by omega) (by omega)), place]

theorem roundedUnits_pos {n : Nat} (pos : 0 < n) : 0 < roundedUnits n := by
  have some_digit : 0 < twoTo 52 := twoTo_pos 52
  exact Nat.mul_pos (some_digit.trans_le (digits_bounds pos).1) (lastPlace_pos n)

/-- Up to this magnitude nothing is lost. -/
theorem roundedUnits_of_le {n : Nat} (small : n ≤ greatestExact) :
    roundedUnits n = n * unitsOfOne := by
  have divides : lastPlace n ∣ n * unitsOfOne := by
    rcases Nat.lt_or_eq_of_le small with less | rfl
    · rcases Nat.eq_zero_or_pos n with rfl | pos
      · rw [Nat.zero_mul]
        exact Nat.dvd_zero _
      · obtain ⟨top, -, -⟩ := scaled_bounds pos less
        refine Nat.dvd_mul_left_of_dvd ⟨twoTo (52 - n.log2), ?_⟩ n
        rw [lastPlace, unitsOfOne, ← twoTo_add]
        exact congrArg twoTo (by omega)
    · exact ⟨twoTo 52, by decide +kernel⟩
  obtain ⟨digits, is⟩ := divides
  rw [roundedUnits, is, Nat.mul_comm, Nat.mul_comm _ digits,
    roundHalfEven_mul_self digits (lastPlace_pos n), Nat.mul_comm]

/-- Greater numbers do not get lesser doubles. -/
theorem roundedUnits_mono {m n : Nat} (le : m ≤ n) : roundedUnits m ≤ roundedUnits n := by
  rcases Nat.eq_zero_or_pos m with rfl | pos
  · rw [roundedUnits_of_le (Nat.zero_le _), Nat.zero_mul]
    exact Nat.zero_le _
  have pos' : 0 < n := pos.trans_le le
  have digits : m.log2 ≤ n.log2 :=
    (Nat.le_log2 (by omega)).mpr ((Nat.log2_self_le (by omega)).trans le)
  rcases Nat.lt_or_eq_of_le digits with fewer | same
  · -- The one is at most the power of two that the other one is at least.
    calc roundedUnits m ≤ twoTo 53 * lastPlace m := Nat.mul_le_mul_right _ (digits_bounds pos).2
      _ ≤ twoTo 52 * lastPlace n := by
        rw [lastPlace, lastPlace, ← twoTo_add, ← twoTo_add]
        exact Nat.pow_le_pow_right (by decide) (by omega)
      _ ≤ roundedUnits n := Nat.mul_le_mul_right _ (digits_bounds pos').1
  · have place : lastPlace m = lastPlace n := by rw [lastPlace, lastPlace, same]
    rw [roundedUnits, roundedUnits, place]
    exact Nat.mul_le_mul_right _
      (roundHalfEven_mono (lastPlace_pos n) (Nat.mul_le_mul_right _ le))

/-! ## Integers -/

/-- The nearest double of an integer, in units. -/
def signedUnits (n : Int) : Int :=
  if n < 0 then -(roundedUnits n.natAbs : Int) else roundedUnits n.natAbs

theorem units_ofInt {n : Int} (bounded : n.natAbs ≤ greatestWord) :
    (Binary.ofInt n : Double).units = some (signedUnits n) := by
  rcases Nat.eq_zero_or_pos n.natAbs with zero | pos
  · obtain rfl : n = 0 := by omega
    rw [signedUnits, if_neg (by decide), Int.natAbs_zero, roundedUnits_of_le (Nat.zero_le _),
      Nat.zero_mul]
    rfl
  · rw [Binary.ofInt, units_ofRatio pos bounded, signedUnits]
    simp only [decide_eq_true_eq]

theorem signedUnits_mono {m n : Int} (le : m ≤ n) : signedUnits m ≤ signedUnits n := by
  rw [signedUnits, signedUnits]
  split
  · split
    · have := roundedUnits_mono (m := n.natAbs) (n := m.natAbs) (by omega)
      omega
    · omega
  · rw [if_neg (by omega)]
    have := roundedUnits_mono (m := m.natAbs) (n := n.natAbs) (by omega)
    omega

theorem signedUnits_of_le {n : Int} (small : n.natAbs ≤ greatestExact) :
    signedUnits n = n * unitsOfOne := by
  rw [signedUnits, roundedUnits_of_le small, Int.natCast_mul]
  split
  · have magnitude : (n.natAbs : Int) = -n := by omega
    rw [magnitude, Int.neg_mul, Int.neg_neg]
  · have magnitude : (n.natAbs : Int) = n := by omega
    rw [magnitude]

theorem signedUnits_eq_zero {n : Int} (zero : signedUnits n = 0) : n = 0 := by
  by_contra some
  have := roundedUnits_pos (n := n.natAbs) (by omega)
  rw [signedUnits] at zero
  split at zero <;> omega

/-- Of two integers, one of which every double tells from its neighbours, the greater one has
the greater double. -/
theorem signedUnits_lt {m n : Int} (less : m < n)
    (small : m.natAbs < greatestExact ∨ n.natAbs < greatestExact) :
    signedUnits m < signedUnits n := by
  have one : (0 : Int) < unitsOfOne := Int.natCast_pos.mpr (twoTo_pos 1074)
  rcases small with small | small
  · calc signedUnits m = m * unitsOfOne := signedUnits_of_le (Nat.le_of_lt small)
      _ < (m + 1) * unitsOfOne := Int.mul_lt_mul_of_pos_right (by omega) one
      _ = signedUnits (m + 1) := (signedUnits_of_le (by omega)).symm
      _ ≤ signedUnits n := signedUnits_mono (by omega)
  · calc signedUnits m ≤ signedUnits (n - 1) := signedUnits_mono (by omega)
      _ = (n - 1) * unitsOfOne := signedUnits_of_le (by omega)
      _ < n * unitsOfOne := Int.mul_lt_mul_of_pos_right (by omega) one
      _ = signedUnits n := (signedUnits_of_le (Nat.le_of_lt small)).symm

/-! ## Doubles and their units -/

namespace Binary

variable {f : BinaryFormat}

/-- A magnitude has one pair of digits and exponent. -/
theorem canonical_unique {digits digits' : Nat} {exponent exponent' : Int} (some : 0 < f.precision)
    (canonical : f.Canonical digits exponent) (canonical' : f.Canonical digits' exponent')
    (same : digits * twoTo (exponent - f.lowest).toNat =
      digits' * twoTo (exponent' - f.lowest).toNat) : digits = digits' ∧ exponent = exponent' := by
  wlog le : exponent ≤ exponent' generalizing digits digits' exponent exponent'
  · obtain ⟨rfl, rfl⟩ := this canonical' canonical same.symm (by omega)
    exact ⟨rfl, rfl⟩
  obtain ⟨below, least, -, -⟩ := canonical
  obtain ⟨-, -, -, full⟩ := canonical'
  have scale : twoTo (exponent' - f.lowest).toNat =
      twoTo (exponent' - exponent).toNat * twoTo (exponent - f.lowest).toNat := by
    rw [← twoTo_add]
    exact congrArg twoTo (by omega)
  rw [scale, ← Nat.mul_assoc, Nat.mul_left_inj (twoTo_pos _).ne'] at same
  rcases Int.lt_or_eq_of_le le with less | rfl
  · -- The greater exponent leaves the other number too many digits.
    exfalso
    have top : twoTo (f.precision - 1) ≤ digits' := by
      rcases full with full | lowest
      · exact full
      · omega
    have double : twoTo 1 ≤ twoTo (exponent' - exponent).toNat :=
      Nat.pow_le_pow_right (by decide) (by omega)
    have : twoTo f.precision ≤ digits := by
      calc twoTo f.precision = twoTo (f.precision - 1) * twoTo 1 := by
            rw [← twoTo_add]; congr 1; omega
        _ ≤ digits' * twoTo (exponent' - exponent).toNat := Nat.mul_le_mul top double
        _ = digits := same.symm
    omega
  · rw [Int.sub_self, Int.toNat_zero] at same
    exact ⟨same.trans (Nat.mul_one _), rfl⟩

/-- Numbers other than zero are told by their units. -/
theorem eq_of_units (some : 0 < f.precision) {x y : Binary f} {units : Int}
    (is : x.units = .some units) (is' : y.units = .some units) (nonzero : units ≠ 0) : x = y := by
  cases x with
  | nan | infinite _ => cases is
  | finite negative digits exponent canonical =>
    cases y with
    | nan | infinite _ => cases is'
    | finite negative' digits' exponent' canonical' =>
      rw [Binary.units, Option.some.injEq] at is is'
      have magnitudes : digits * twoTo (exponent - f.lowest).toNat =
          digits' * twoTo (exponent' - f.lowest).toNat := by
        split at is <;> split at is' <;> omega
      have signs : negative = negative' := by
        cases negative <;> cases negative'
        · rfl
        · rw [if_neg Bool.false_ne_true] at is
          rw [if_pos rfl] at is'
          omega
        · rw [if_neg Bool.false_ne_true] at is'
          rw [if_pos rfl] at is
          omega
        · rfl
      obtain ⟨rfl, rfl⟩ := canonical_unique some canonical canonical' magnitudes
      subst signs
      rfl

/-- Finite numbers are in the order of their units. -/
theorem lt_of_units {x y : Binary f} {units units' : Int} (is : x.units = some units)
    (is' : y.units = some units') : x.lt y = decide (units < units') := by
  cases x with
  | nan | infinite _ => cases is
  | finite _ _ _ _ =>
    cases y with
    | nan | infinite _ => cases is'
    | finite _ _ _ _ => rw [lt, is, is', Option.getD_some, Option.getD_some]

section ofInt

variable {m n : Int}

/-- Integers with the same units have the same double. -/
theorem ofInt_eq_iff (bounded : m.natAbs ≤ greatestWord) (bounded' : n.natAbs ≤ greatestWord) :
    (ofInt m : Double) = ofInt n ↔ signedUnits m = signedUnits n := by
  constructor
  · intro same
    have units := units_ofInt bounded
    rw [same, units_ofInt bounded'] at units
    exact (Option.some.inj units).symm
  · intro same
    by_cases zero : signedUnits n = 0
    · rw [signedUnits_eq_zero zero, signedUnits_eq_zero (same.trans zero)]
    · exact eq_of_units (by decide) (same ▸ units_ofInt bounded) (units_ofInt bounded') zero

/-- The doubles of integers are in the order of the integers, as far as they are different. -/
theorem ofInt_lt_iff (bounded : m.natAbs ≤ greatestWord) (bounded' : n.natAbs ≤ greatestWord) :
    (ofInt m : Double).lt (ofInt n) = true ↔ m < n ∧ (ofInt m : Double) ≠ ofInt n := by
  rw [lt_of_units (units_ofInt bounded) (units_ofInt bounded'), decide_eq_true_eq,
    Ne, ofInt_eq_iff bounded bounded']
  constructor
  · intro less
    refine ⟨?_, Int.ne_of_lt less⟩
    by_contra not_less
    have := signedUnits_mono (Int.not_lt.mp not_less)
    omega
  · rintro ⟨less, different⟩
    exact Int.lt_iff_le_and_ne.mpr ⟨signedUnits_mono (Int.le_of_lt less), different⟩

/-- An integer whose neighbours are doubles shares its double with no other one. -/
theorem eq_of_ofInt_eq (bounded : m.natAbs ≤ greatestWord) (bounded' : n.natAbs ≤ greatestWord)
    (small : m.natAbs < greatestExact ∨ n.natAbs < greatestExact)
    (same : (ofInt m : Double) = ofInt n) : m = n := by
  rw [ofInt_eq_iff bounded bounded'] at same
  by_contra different
  rcases Int.lt_or_gt_of_ne different with less | greater
  · exact absurd same (Int.ne_of_lt (signedUnits_lt less small))
  · exact absurd same.symm (Int.ne_of_lt (signedUnits_lt greater small.symm))

end ofInt

end Binary

end RecordRules

import Mathlib.Algebra.Order.Ring.Int
import RecordRules.Proofs.Engine.Calling
import RecordRules.Proofs.Value.Integer

/-!
# Powers

Whether an integer is a power of another one is found out by trying, with words of 128 bits and
exponents up to 128.  Powers of a base that grows leave the words of 64 bits, in which integers
are seen, long before that: so no exponent is missed and no power in question is too wide.

Powers of `-1`, `0` and `1` stay small.  For them it makes a difference that no greater exponent is
tried.
-/

namespace RecordRules

/-! ## Powers that are words -/

/-- Powers of a base that grows are words of 64 bits only for small exponents. -/
theorem exponent_le {base : Int} (grows : 2 ≤ base.natAbs) {k : Nat}
    (bounded : (base ^ k).natAbs ≤ twoTo 64) : k ≤ 64 := by
  have least : 2 ^ k ≤ base.natAbs ^ k := Nat.pow_le_pow_left grows k
  rw [← Int.natAbs_pow] at least
  have word : 2 ^ k ≤ 2 ^ 64 := Nat.le_trans least bounded
  exact (Nat.pow_le_pow_iff_right Nat.one_lt_two).mp word

/-- Such a power is not too wide. -/
theorem widePower?_of_bounded {base : Int} {k : Nat} (bounded : (base ^ k).natAbs ≤ twoTo 64) :
    Check.widePower? base k = some (base ^ k) := by
  have narrow : twoTo 64 < twoTo 127 := by decide
  have within : -(twoTo 127 : Int) ≤ base ^ k ∧ base ^ k < (twoTo 127 : Int) := by omega
  exact if_pos within

theorem eq_of_widePower? {base : Int} {k : Nat} {n : Int}
    (is : Check.widePower? base k = some n) : base ^ k = n := by
  rw [Check.widePower?] at is
  split at is
  · exact Option.some.inj is
  · cases is

/-- Trying finds every power that is a word, up to the greatest exponent that is tried. -/
theorem isPower_iff {base start finish n : Int} (bounded : n.natAbs ≤ twoTo 64) :
    Check.isPower base start finish n = true ↔
      ∃ k : Nat, start ≤ k ∧ k ≤ finish ∧ base ^ k = n ∧
        (base.natAbs ≤ 1 → k ≤ Check.greatestExponent) := by
  simp only [Check.isPower, List.any_eq_true, List.mem_range, Bool.and_eq_true, decide_eq_true_eq,
    beq_iff_eq]
  constructor
  · rintro ⟨k, tried, ⟨low, high⟩, wide⟩
    exact ⟨k, low, high, eq_of_widePower? wide, fun _ => Nat.le_of_lt_succ tried⟩
  · rintro ⟨k, low, high, rfl, still⟩
    refine ⟨k, Nat.lt_succ_of_le ?_, ⟨low, high⟩, widePower?_of_bounded bounded⟩
    rcases Nat.lt_or_ge 1 base.natAbs with grows | small
    · exact Nat.le_trans (exponent_le grows bounded) (by decide)
    · exact still small

/-! ## The check -/

theorem test_powerOf (base start finish : Int64) (root : Option Value) {v : Value} {n : Int}
    (is : v.integer? = some n) :
    (Check.powerOf base start finish).test root v = .ok () ↔
      Check.isPower base.toInt start.toInt finish.toInt n = true := by
  rw [Check.test, Check.testPower]
  have shows := Value.shows_of_integer? is
  generalize v.indirect.view = view at shows
  cases shows with
  | int stands | uint stands =>
    dsimp only
    rw [stands]
    split
    · next power => exact iff_of_true rfl power
    · next other => exact iff_of_false nofun other

theorem accepts_exp (config : Config) (requests : List Request) (base start finish : Int64)
    {v : Value} {n : Int} (is : v.integer? = some n) :
    (Workspace.afterRequests config requests).Accepts v (callText "exp" base [start, finish]) ↔
      Check.isPower base.toInt start.toInt finish.toInt n = true := by
  have known : Rulebook.standard.functions.get? "exp" =
      some (.ofThreeIntegers "exp" fun base start finish => .check (.powerOf base start finish)) :=
    rfl
  rw [accepts_callText (by decide) known rfl, test_powerOf base start finish _ is]

/-- An integer passes exactly if it is a power of the base with an exponent between the bounds; and
for the bases that do not grow, with one that is not greater than 128.  No power is too
wide to be found.

This is so for all bases and bounds, for integers of all types, behind pointers and in documents,
and whatever the engine has been asked before. -/
theorem accepts_power (config : Config) (requests : List Request) (base start finish : Int64)
    {v : Value} {n : Int} (is : v.integer? = some n) :
    (Workspace.afterRequests config requests).Accepts v (callText "exp" base [start, finish]) ↔
      ∃ k : Nat, start.toInt ≤ k ∧ k ≤ finish.toInt ∧ base.toInt ^ k = n ∧
        (base.toInt.natAbs ≤ 1 → k ≤ 128) := by
  have bounded := Value.natAbs_of_shows (Value.shows_of_integer? is)
  exact (accepts_exp config requests base start finish is).trans (isPower_iff bounded)

/-- A negative power behind two pointers, one of them an option. -/
theorem accepts_power_of_pointer :
    let v : Value := .boxed (.present ⟨.integer .int16, []⟩ (.integer .int16 ⟨-512, by decide⟩))
    v.integer? = some (-512) ∧
      (Workspace.afterRequests {} [.build "min(1)"]).Accepts v (callText "exp" (-2) [-3, 9]) := by
  intro v
  have is : v.integer? = some (-512) := rfl
  refine ⟨is, (accepts_power {} [.build "min(1)"] (-2) (-3) 9 is).mpr ⟨9, ?_⟩⟩
  decide

/-- One is every power of one, but it is not found when all exponents in question are greater than
those that are tried. -/
theorem power_of_one_missed :
    let v : Value := .integer .int64 ⟨1, by decide⟩
    v.integer? = some 1 ∧
      (∃ k : Nat, (200 : Int64).toInt ≤ k ∧ k ≤ (300 : Int64).toInt ∧ (1 : Int64).toInt ^ k = 1) ∧
      ¬ (Workspace.afterRequests {} []).Accepts v (callText "exp" 1 [200, 300]) := by
  intro v
  have is : v.integer? = some 1 := rfl
  have missed : Check.isPower 1 200 300 1 = false := by decide
  refine ⟨is, ⟨200, by decide⟩, ?_⟩
  rw [accepts_exp {} [] 1 200 300 is]
  exact Bool.eq_false_iff.mp missed

end RecordRules

import RecordRules.Proofs.Engine.Calling
import RecordRules.Proofs.Number.Rounding
import RecordRules.Proofs.Value.Integer

/-!
# Bounds

Bounds are doubles, and what is compared with them is a double, too.  An integer and a bound that
is given as one are both replaced by the doubles nearest to them, so the comparison is that of the
integers unless these share a double (`SameDouble`).  Different integers do so only if neither is
of the magnitudes where every integer is a double.
-/

namespace RecordRules

/-- The integers have the same nearest double. -/
def SameDouble (m n : Int) : Prop :=
  (Binary.ofInt m : Double) = Binary.ofInt n

instance (m n : Int) : Decidable (SameDouble m n) :=
  inferInstanceAs (Decidable (_ = _))

theorem SameDouble.comm {m n : Int} : SameDouble m n ↔ SameDouble n m :=
  eq_comm

/-- Of two doubles of integers the first one is less, unless its integer is on the other side or
they are the same. -/
theorem lt_eq_false_iff {m n : Int} (bounded : m.natAbs ≤ greatestWord)
    (bounded' : n.natAbs ≤ greatestWord) :
    (Binary.ofInt m : Double).lt (Binary.ofInt n) = false ↔ n ≤ m ∨ SameDouble m n := by
  rw [← Bool.not_eq_true, Binary.ofInt_lt_iff bounded bounded', Decidable.not_and_iff_not_or_not,
    Int.not_lt, Ne, not_not, SameDouble]

namespace Check

variable {v : Value} {n : Int}

theorem natAbs_toInt_le (word : Int64) : word.toInt.natAbs ≤ greatestWord :=
  Value.natAbs_of_shows (.int rfl)

/-- What is compared with bounds is the double nearest to the integer. -/
theorem measure_of_integer? (is : v.integer? = some n) (code : String) :
    measure code v = .ok (.ofInt n, "value") := by
  obtain ⟨length, number⟩ := Value.number?_of_integer? is
  rw [measure, length, number]

theorem testLow_iff (is : v.integer? = some n) (code : String) (low : Int64) :
    testLow code (.ofInt low.toInt) v = .ok () ↔ low.toInt ≤ n ∨ SameDouble n low.toInt := by
  have bounded := Value.natAbs_of_shows (Value.shows_of_integer? is)
  rw [testLow, measure_of_integer? is, ← lt_eq_false_iff bounded (natAbs_toInt_le low)]
  dsimp only
  cases (Binary.ofInt n : Double).lt (Binary.ofInt low.toInt) <;> simp

theorem testHigh_iff (is : v.integer? = some n) (code : String) (high : Int64) :
    testHigh code (.ofInt high.toInt) v = .ok () ↔ n ≤ high.toInt ∨ SameDouble n high.toInt := by
  have bounded := Value.natAbs_of_shows (Value.shows_of_integer? is)
  rw [testHigh, measure_of_integer? is, SameDouble.comm,
    ← lt_eq_false_iff (natAbs_toInt_le high) bounded]
  dsimp only
  cases (Binary.ofInt high.toInt : Double).lt (Binary.ofInt n) <;> simp

theorem test_within (is : v.integer? = some n) (low high : Int64) (root : Option Value) :
    (within (.ofInt low.toInt) (.ofInt high.toInt)).test root v = .ok () ↔
      (low.toInt ≤ n ∨ SameDouble n low.toInt) ∧ (n ≤ high.toInt ∨ SameDouble n high.toInt) := by
  rw [← testLow_iff is "ranger", ← testHigh_iff is "ranger", test]
  cases testLow "ranger" (.ofInt low.toInt) v with
  | ok _ => exact (and_iff_right rfl).symm
  | error e => exact iff_of_false nofun fun both => nomatch both.1

end Check

section calls

variable (config : Config) (requests : List Request) {v : Value} {n : Int}

theorem accepts_min (is : v.integer? = some n) (low : Int64) :
    (Workspace.afterRequests config requests).Accepts v (callText "min" low []) ↔
      low.toInt ≤ n ∨ SameDouble n low.toInt := by
  have known : Rulebook.standard.functions.get? "min" =
      some (.ofNumber "min" fun bound => .check (.atLeast bound)) := rfl
  rw [accepts_callText (by decide) known rfl]
  exact Check.testLow_iff is "min" low

theorem accepts_max (is : v.integer? = some n) (high : Int64) :
    (Workspace.afterRequests config requests).Accepts v (callText "max" high []) ↔
      n ≤ high.toInt ∨ SameDouble n high.toInt := by
  have known : Rulebook.standard.functions.get? "max" =
      some (.ofNumber "max" fun bound => .check (.atMost bound)) := rfl
  rw [accepts_callText (by decide) known rfl]
  exact Check.testHigh_iff is "max" high

theorem accepts_ranger (is : v.integer? = some n) (low high : Int64) :
    (Workspace.afterRequests config requests).Accepts v (callText "ranger" low [high]) ↔
      (low.toInt ≤ n ∨ SameDouble n low.toInt) ∧ (n ≤ high.toInt ∨ SameDouble n high.toInt) := by
  have known : Rulebook.standard.functions.get? "ranger" =
      some (.ofTwoNumbers "ranger" fun low high => .check (.within low high)) := rfl
  rw [accepts_callText (by decide) known rfl]
  exact Check.test_within is low high _

/-- An integer passes a bound exactly if it is on the right side of it or has the same nearest
double, for all bounds, for integers of all types, behind pointers and in documents, and whatever
the engine has been asked before.  An integer and a bound that have the same nearest double are
equal if the magnitude of one of them is less than two to the power of 53. -/
theorem accepts_bounds (is : v.integer? = some n) (low high : Int64) :
    let w := Workspace.afterRequests config requests
    (w.Accepts v (callText "min" low []) ↔ low.toInt ≤ n ∨ SameDouble n low.toInt) ∧
      (w.Accepts v (callText "max" high []) ↔ n ≤ high.toInt ∨ SameDouble n high.toInt) ∧
      (w.Accepts v (callText "ranger" low [high]) ↔
        (low.toInt ≤ n ∨ SameDouble n low.toInt) ∧ (n ≤ high.toInt ∨ SameDouble n high.toInt)) ∧
      ∀ bound : Int64, n.natAbs < twoTo 53 ∨ bound.toInt.natAbs < twoTo 53 →
        SameDouble n bound.toInt → n = bound.toInt := by
  have bounded := Value.natAbs_of_shows (Value.shows_of_integer? is)
  exact ⟨accepts_min config requests is low, accepts_max config requests is high,
    accepts_ranger config requests is low high, fun bound =>
      Binary.eq_of_ofInt_eq bounded (Check.natAbs_toInt_le bound)⟩

end calls

/-- The greatest unsigned word in a document, behind a pointer. -/
theorem accepts_bounds_of_document :
    let v : Value := .boxed (.json (.integer ⟨18446744073709551615, by decide⟩))
    let w := Workspace.afterRequests {} [.build "min(1)"]
    v.integer? = some 18446744073709551615 ∧ w.Accepts v (callText "min" (-5) []) ∧
      ¬ w.Accepts v (callText "max" Int64.maxValue []) ∧
      ¬ w.Accepts v (callText "ranger" (-5) [Int64.maxValue]) := by
  intro v w
  have is : v.integer? = some 18446744073709551615 := rfl
  obtain ⟨low, high, both, -⟩ := accepts_bounds {} [.build "min(1)"] is (-5) Int64.maxValue
  refine ⟨is, low.mpr (by decide), ?_, ?_⟩
  · rw [high]
    decide
  · rw [both]
    decide

/-- The least positive integer that is no double is replaced by the one below it, and so passes
that one as a bound. -/
theorem bound_passed_from_above :
    let v : Value := .integer .int64 ⟨9007199254740993, by decide⟩
    v.integer? = some 9007199254740993 ∧
      (9007199254740992 : Int64).toInt < 9007199254740993 ∧
      (Workspace.afterRequests {} []).Accepts v (callText "max" 9007199254740992 []) := by
  intro v
  have is : v.integer? = some 9007199254740993 := rfl
  have same : SameDouble 9007199254740993 (9007199254740992 : Int64).toInt := by decide
  exact ⟨is, by decide, (accepts_max {} [] is _).mpr (.inr same)⟩

end RecordRules

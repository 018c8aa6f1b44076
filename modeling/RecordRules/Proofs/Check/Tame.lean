import RecordRules.Proofs.Value.Bare

/-!
# Tame checks

A tame check does not look at annotations, and its failures carry no failures of fields.
All checks are tame, apart perhaps from those that are made from tests of their own.
-/

namespace RecordRules

namespace Check

/-- A check that does not see annotations, and whose failures are failures of the value
itself. -/
structure Tame (c : Check) : Prop where
  plain : ∀ root v e, c.test root v = .error e → e.fields = none
  blind : ∀ root v, c.test (root.map Value.bare) v.bare = c.test root v

/-- A failure of the value itself, if it is one. -/
def Plain (outcome : Outcome) : Prop :=
  ∀ e, outcome = .error e → e.fields = none

theorem plain_ok : Plain (.ok ()) :=
  fun _ is => by cases is

theorem plain_error {e : Failure} (plain : e.fields = none) : Plain (.error e) :=
  fun _ is => by
    cases is
    exact plain

theorem plain_ite {c : Prop} [Decidable c] {a b : Outcome} (first : Plain a) (second : Plain b) :
    Plain (if c then a else b) := by
  split
  · exact first
  · exact second

theorem measure_bare (code : String) (v : Value) : measure code v.bare = measure code v := by
  rw [measure, measure, Value.length?_bare, Value.number?_bare, Value.indirect_bare,
    Value.kind_bare]

theorem plain_measure {code : String} {v : Value} {e : Failure}
    (fails : measure code v = .error e) : e.fields = none := by
  rw [measure] at fails
  split at fails
  · cases fails
  · cases fails
  · cases fails
    rfl

theorem plain_testLow (code : String) (bound : Double) (v : Value) :
    Plain (testLow code bound v) := by
  rw [testLow]
  cases measured : measure code v with
  | ok _ => exact plain_ite (plain_error rfl) plain_ok
  | error _ => exact plain_error (plain_measure measured)

theorem plain_testHigh (code : String) (bound : Double) (v : Value) :
    Plain (testHigh code bound v) := by
  rw [testHigh]
  cases measured : measure code v with
  | ok _ => exact plain_ite (plain_error rfl) plain_ok
  | error _ => exact plain_error (plain_measure measured)

theorem plain_testText {code : String} {v : Value} {test : String → Outcome}
    (plain : ∀ text, Plain (test text)) : Plain (testText code v test) := by
  rw [testText]
  cases v.string? with
  | some text => exact plain text
  | none => exact plain_error rfl

theorem testText_bare (code : String) (v : Value) (test : String → Outcome) :
    testText code v.bare test = testText code v test := by
  rw [testText, testText, Value.string?_bare, Value.indirect_bare, Value.kind_bare]

theorem testPower_bare (base start finish : Int64) (v : Value) :
    testPower base start finish v.bare = testPower base start finish v := by
  rw [testPower, testPower, Value.indirect_bare]
  cases v.indirect <;> rfl

theorem plain_testPower (base start finish : Int64) (v : Value) :
    Plain (testPower base start finish v) := by
  rw [testPower]
  split
  · exact plain_ite plain_ok (plain_error rfl)
  · exact plain_ite plain_ok (plain_error rfl)
  · exact plain_error rfl

/-- The failures of the listed checks are failures of the value itself. -/
theorem plain_test {c : Check} (stock : ∀ custom, c ≠ .custom custom) (root : Option Value)
    (v : Value) : Plain (c.test root v) := by
  cases c with
  | zero => exact plain_ite plain_ok (plain_error rfl)
  | required => exact plain_ite (plain_error rfl) plain_ok
  | atLeast bound => exact plain_testLow "min" bound v
  | atMost bound => exact plain_testHigh "max" bound v
  | within low high =>
    rw [test]
    cases first : testLow "ranger" low v with
    | ok _ => exact plain_testHigh "ranger" high v
    | error e => exact plain_error (plain_testLow _ _ _ e first)
  | lengthIs expected =>
    rw [test, testLength]
    cases v.length? with
    | some n => exact plain_ite plain_ok (plain_error rfl)
    | none => exact plain_error rfl
  | oneOf allowed =>
    rw [test, testOneOf]
    cases v.literal? with
    | some l => exact plain_ite plain_ok (plain_error rfl)
    | none => exact plain_error rfl
  | powerOf base start finish => exact plain_testPower base start finish v
  | hasFormat format => exact plain_testText fun text => plain_ite plain_ok (plain_error rfl)
  | matching source pattern =>
    exact plain_testText fun text => plain_ite plain_ok (plain_error rfl)
  | custom custom => exact absurd rfl (stock custom)

/-- The listed checks do not see annotations. -/
theorem test_bare {c : Check} (stock : ∀ custom, c ≠ .custom custom) (root : Option Value)
    (v : Value) : c.test (root.map Value.bare) v.bare = c.test root v := by
  cases c with
  | zero | required => simp only [test, Value.isZero_bare]
  | atLeast bound => simp only [test, testLow, measure_bare]
  | atMost bound => simp only [test, testHigh, measure_bare]
  | within low high => simp only [test, testLow, testHigh, measure_bare]
  | lengthIs expected =>
    simp only [test, testLength, Value.length?_bare, Value.indirect_bare, Value.kind_bare]
  | oneOf allowed =>
    simp only [test, testOneOf, Value.literal?_bare, Value.indirect_bare, Value.kind_bare]
  | powerOf base start finish => exact testPower_bare base start finish v
  | hasFormat format => exact testText_bare _ v _
  | matching source pattern => exact testText_bare _ v _
  | custom custom => exact absurd rfl (stock custom)

theorem tame_of_stock {c : Check} (stock : ∀ custom, c ≠ .custom custom) : c.Tame where
  plain := plain_test stock
  blind := test_bare stock

end Check

end RecordRules

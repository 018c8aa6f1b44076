import Mathlib.Data.Int.Basic
import RecordRules.Value.View

/-!
# The integers of values

Fields of ten integer types and documents hold integers.  Views show all of them as words of 64
bits, signed or unsigned, and lose nothing: the word stands for the integer in the field,
whatever pointers lead to it.
-/

namespace RecordRules.Value

/-- The integer that the value is, after following pointers. -/
def integer? (v : Value) : Option Int :=
  match v.indirect with
  | integer _ n => some n.val
  | json (.integer n) => some n.val
  | _ => none

/-- The view is a word of 64 bits that stands for the integer. -/
inductive Shows (n : Int) : View → Prop
  | int {word : Int64} : word.toInt = n → Shows n (.int word)
  | uint {word : UInt64} : (word.toNat : Int) = n → Shows n (.uint word)

theorem shows_int {n : Int} (holds : IntType.int64.Holds n) : Shows n (.int (Int64.ofInt n)) := by
  refine .int (Int64.toInt_ofInt_of_le ?_ ?_)
  · exact holds.1
  · exact Int.lt_of_le_sub_one holds.2

theorem shows_uint {n : Int} (holds : IntType.uint64.Holds n) :
    Shows n (.uint (UInt64.ofNat n.toNat)) := by
  have nonneg : 0 ≤ n := holds.1
  have le : n ≤ 2 ^ 64 - 1 := holds.2
  refine .uint ?_
  rw [UInt64.toNat_ofNat_of_lt' (show n.toNat < 2 ^ 64 by omega), Int.toNat_of_nonneg nonneg]

/-- Signed types have at most 64 bits. -/
theorem holds_of_signed {t : IntType} (signed : t.signed = true) {n : Int} (holds : t.Holds n) :
    IntType.int64.Holds n := by
  unfold IntType.Holds IntType.least IntType.greatest at *
  cases t <;> simp [IntType.signed, IntType.bits, twoTo] at * <;> omega

/-- So have unsigned ones. -/
theorem holds_of_unsigned {t : IntType} (unsigned : t.signed = false) {n : Int}
    (holds : t.Holds n) : IntType.uint64.Holds n := by
  unfold IntType.Holds IntType.least IntType.greatest at *
  cases t <;> simp [IntType.signed, IntType.bits, twoTo] at * <;> omega

theorem shows_ofInteger (t : IntType) (n : t.Number) : Shows n.val (.ofInteger t n.val) := by
  rw [View.ofInteger]
  cases signed : t.signed with
  | true => exact shows_int (holds_of_signed signed n.property)
  | false => exact shows_uint (holds_of_unsigned signed n.property)

/-- Documents hold what either sort of word holds. -/
theorem shows_ofJson (n : JsonInteger) : Shows n.val (.ofJson (.integer n)) := by
  rw [View.ofJson]
  split
  · next narrow => exact shows_int narrow
  · next wide =>
    refine shows_uint ⟨?_, n.property.2⟩
    have low : IntType.int64.least ≤ n.val := n.property.1
    have high : ¬ n.val ≤ IntType.int64.greatest := fun high => wide ⟨low, high⟩
    have beyond : 0 ≤ IntType.int64.greatest := by decide
    exact Int.le_trans beyond (Int.le_of_not_le high)

/-- The view of an integer, behind pointers or not, loses nothing. -/
theorem shows_of_integer? {v : Value} {n : Int} (is : v.integer? = some n) :
    Shows n v.indirect.view := by
  rw [integer?] at is
  split at is
  · next t m found =>
    cases is
    rw [found]
    exact shows_ofInteger t m
  · next m found =>
    cases is
    rw [found]
    exact shows_ofJson m
  · cases is

/-- A word of 64 bits stands for no greater integer. -/
theorem natAbs_of_shows {n : Int} {view : View} (shows : Shows n view) : n.natAbs ≤ twoTo 64 := by
  change n.natAbs ≤ 2 ^ 64
  cases shows with
  | @int word stands =>
    have low := word.le_toInt
    have high := word.toInt_lt
    omega
  | @uint word stands =>
    have high := word.toNat_lt
    omega

/-- An integer is a number, namely the nearest one, and has no length. -/
theorem number?_of_integer? {v : Value} {n : Int} (is : v.integer? = some n) :
    v.length? = none ∧ v.number? = some (.ofInt n) := by
  rw [length?, number?]
  have shows := shows_of_integer? is
  generalize v.indirect.view = view at shows
  cases shows with
  | int stands => exact ⟨rfl, congrArg _ (congrArg _ stands)⟩
  | uint stands => exact ⟨rfl, congrArg _ (congrArg _ stands)⟩

end RecordRules.Value

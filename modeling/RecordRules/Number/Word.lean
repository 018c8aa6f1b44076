import RecordRules.Number.IntType

/-!
# Machine integers

Integers that fit 64 bits, as rules, literals and views hold them.
-/

namespace RecordRules

/-- The signed 64-bit integer of this value, if there is one. -/
def int64? (n : Int) : Option Int64 :=
  if IntType.int64.Holds n then some (Int64.ofInt n) else none

/-- The decimal text of a signed 64-bit integer. -/
def int64Text (n : Int64) : String :=
  toString n.toInt

/-- The decimal text of an unsigned 64-bit integer. -/
def uint64Text (n : UInt64) : String :=
  toString n.toNat

end RecordRules

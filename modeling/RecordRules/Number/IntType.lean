import RecordRules.Number.Power

/-!
# Integer types

The integer types that fields may have, signed and unsigned, from 8 to 64 bits.  The
two size types have 64 bits.
-/

namespace RecordRules

/-- A machine integer type. -/
inductive IntType where
  | int8 | int16 | int32 | int64 | intSize
  | uint8 | uint16 | uint32 | uint64 | uintSize
deriving DecidableEq, Repr

namespace IntType

/-- All integer types. -/
def all : List IntType :=
  [int8, int16, int32, int64, intSize, uint8, uint16, uint32, uint64, uintSize]

/-- The name of the type in messages. -/
def name : IntType → String
  | int8 => "i8"
  | int16 => "i16"
  | int32 => "i32"
  | int64 => "i64"
  | intSize => "isize"
  | uint8 => "u8"
  | uint16 => "u16"
  | uint32 => "u32"
  | uint64 => "u64"
  | uintSize => "usize"

/-- The type has negative numbers. -/
def signed : IntType → Bool
  | int8 | int16 | int32 | int64 | intSize => true
  | uint8 | uint16 | uint32 | uint64 | uintSize => false

/-- The number of bits. -/
def bits : IntType → Nat
  | int8 | uint8 => 8
  | int16 | uint16 => 16
  | int32 | uint32 => 32
  | int64 | intSize | uint64 | uintSize => 64

/-- The least number of the type. -/
def least (t : IntType) : Int :=
  if t.signed then -(twoTo (t.bits - 1) : Int) else 0

/-- The greatest number of the type. -/
def greatest (t : IntType) : Int :=
  if t.signed then (twoTo (t.bits - 1) : Int) - 1 else (twoTo t.bits : Int) - 1

/-- The number belongs to the type. -/
def Holds (t : IntType) (n : Int) : Prop :=
  t.least ≤ n ∧ n ≤ t.greatest

instance (t : IntType) (n : Int) : Decidable (t.Holds n) :=
  inferInstanceAs (Decidable (_ ∧ _))

/-- A number of the type. -/
abbrev Number (t : IntType) := { n : Int // t.Holds n }

theorem holds_zero (t : IntType) : t.Holds 0 := by
  cases t <;> decide

/-- The number of the type, if it belongs to it. -/
def number? (t : IntType) (n : Int) : Option t.Number :=
  if holds : t.Holds n then some ⟨n, holds⟩ else none

end IntType

end RecordRules

import RecordRules.Text.Code
import RecordRules.Number.Power

/-!
# Punycode

Text of any script written with ASCII letters, digits and hyphens.  The ASCII characters
of the text come first, up to the last hyphen; numbers after it say, in ascending order,
which other characters there are and between which of those already there they belong.
The digits of a number are of base 36, but how much each place weighs adapts to the
numbers before.
-/

namespace RecordRules

namespace Punycode

/-- The value of a digit of base 36: letters, then decimal digits. -/
def digit36? (c : Char) : Option Nat :=
  if 'a' ≤ c ∧ c ≤ 'z' then some (c.toNat - 97)
  else if c.isDigit then some (c.toNat - 22)
  else none

/-- Scales a distance down until it is small, counting what that is worth. -/
def scaled (delta worth : Nat) : Nat :=
  if 455 < delta then scaled (delta / 35) (worth + 36)
  else worth + 36 * delta / (delta + 38)
termination_by delta
decreasing_by exact Nat.div_lt_self (by omega) (by omega)

/-- The bias of the thresholds after a character has been placed. -/
def adapted (first : Bool) (delta points : Nat) : Nat :=
  let delta := if first then delta / 700 else delta / 2
  scaled (delta + delta / points) 0

/-- The least digit that is not the last one of its number. -/
def threshold (step bias : Nat) : Nat :=
  if step ≤ bias then 1 else min 26 (step - bias)

/-- A number whose digits have bases of their own, and what follows it.  The weight of a
digit has 32 bits. -/
def mixedNumber (bias : Nat) : List Char → (step weight sum : Nat) → Option (Nat × List Char)
  | [], _, _, _ => none
  | c :: cs, step, weight, sum =>
    match digit36? c with
    | none => none
    | some digit =>
      let sum := sum + digit * weight
      let weight := weight * (36 - threshold step bias)
      if digit < threshold step bias then some (sum, cs)
      else if weight < twoTo 32 then mixedNumber bias cs (step + 36) weight sum
      else none

theorem mixedNumber_length {bias step weight sum delta : Nat} {cs rest : List Char}
    (h : mixedNumber bias cs step weight sum = some (delta, rest)) : rest.length < cs.length := by
  induction cs generalizing step weight sum with
  | nil => cases h
  | cons c cs ih =>
    simp only [mixedNumber] at h
    split at h
    · cases h
    · split at h
      · cases h; exact Nat.lt_succ_self _
      · split at h
        · exact Nat.lt_succ_of_lt (ih h)
        · cases h

/-- Places among some characters those that numbers stand for, each by its distance from
the one before, over characters and places. -/
def place (placed : List Char) (first : Bool) (code position bias : Nat) :
    List Char → Option (List Char)
  | [] => some placed
  | d :: ds =>
    match _ : mixedNumber bias (d :: ds) 36 1 0 with
    | none => none
    | some (delta, rest) =>
      let points := placed.length + 1
      let total := position + delta
      match charOfCode? (code + total / points) with
      | none => none
      | some c =>
        let position := total % points
        place (placed.insertIdx position c) false c.toNat (position + 1)
          (adapted first delta points) rest
termination_by cs => cs.length
decreasing_by exact mixedNumber_length ‹_›

/-- The text that a written form stands for.  A hyphen in front divides nothing. -/
def decode (cs : List Char) : Option (List Char) :=
  let numbers := (cs.reverse.takeWhile (· ≠ '-')).reverse
  let plain := (cs.take (cs.length - numbers.length)).dropLast
  let numbers := if plain.isEmpty then cs else numbers
  place plain true 0x80 0 72 numbers

end Punycode

end RecordRules

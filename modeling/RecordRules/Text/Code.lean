/-!
# Characters by their code

Code points are written with digits of some base.  Not every code point is a character:
those reserved for pairs of code units and those above the last plane are not.

Positions in a text count the bytes of its UTF-8 form.
-/

namespace RecordRules

/-- The value of a hexadecimal digit. -/
def hexDigit? (c : Char) : Option Nat :=
  if c.isDigit then some (c.toNat - 48)
  else if 'a' ≤ c ∧ c ≤ 'f' then some (c.toNat - 87)
  else if 'A' ≤ c ∧ c ≤ 'F' then some (c.toNat - 55)
  else none

/-- The value of an octal digit. -/
def octalDigit? (c : Char) : Option Nat :=
  if '0' ≤ c ∧ c ≤ '7' then some (c.toNat - 48) else none

/-- The character of a code point, if it has one. -/
def charOfCode? (code : Nat) : Option Char :=
  if code.isValidChar then some (Char.ofNat code) else none

/-- Reads exactly `count` digits in a base, after the number before them. -/
def readCode (digit? : Char → Option Nat) (base : Nat) :
    Nat → Nat → List Char → Option (Nat × List Char)
  | 0, code, cs => some (code, cs)
  | _ + 1, _, [] => none
  | count + 1, code, c :: cs =>
    match digit? c with
    | some d => readCode digit? base count (code * base + d) cs
    | none => none

theorem readCode_length {digit? : Char → Option Nat} {base count before code : Nat}
    {cs rest : List Char} (h : readCode digit? base count before cs = some (code, rest)) :
    rest.length ≤ cs.length := by
  induction count generalizing before cs with
  | zero => cases h; exact Nat.le_refl _
  | succ count ih =>
    cases cs with
    | nil => cases h
    | cons c cs =>
      simp only [readCode] at h
      split at h
      · exact Nat.le_succ_of_le (ih h)
      · cases h

/-! ## Bytes -/

/-- The number of bytes that a list of characters takes. -/
def byteLength : List Char → Nat
  | [] => 0
  | c :: cs => c.utf8Size + byteLength cs

/-- The characters before and after a byte offset, if no character lies across it. -/
def splitAtByte? (offset : Nat) : List Char → Option (List Char × List Char)
  | [] => if offset = 0 then some ([], []) else none
  | c :: cs =>
    if offset = 0 then some ([], c :: cs)
    else if c.utf8Size ≤ offset then
      (splitAtByte? (offset - c.utf8Size) cs).map fun (front, rest) => (c :: front, rest)
    else none

/-- The text that ends at a byte offset; a text with no more bytes is left as it is.  There is
none if a character lies across the offset. -/
def endAtByte? (offset : Nat) (text : String) : Option String :=
  if byteLength text.toList ≤ offset then some text
  else (splitAtByte? offset text.toList).map fun (front, _) => String.ofList front

end RecordRules

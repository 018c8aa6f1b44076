import RecordRules.Format.Address
import RecordRules.Format.Domain.Label
import RecordRules.Number.Power

/-!
# Domain names

The names of hosts in addresses of the web.  A name may be written with percent signs and
in any script.  Its labels must be allowed in a name; and where the last one is a number,
the name has to be an address of the fourth version.
-/

namespace RecordRules

namespace Domain

/-! ## Names that are addresses -/

/-- A number of an address: decimal, octal after a zero, hexadecimal after `0x`.  The
prefix alone is zero. -/
def addressNumber? (cs : List Char) : Option Nat :=
  let read (digit? : Char → Option Nat) (base : Nat) (cs : List Char) : Option Nat :=
    (readCode digit? base cs.length 0 cs).map Prod.fst
  match cs with
  | [] => none
  | '0' :: 'x' :: rest => read hexDigit? 16 rest
  | '0' :: c :: rest => read octalDigit? 8 (c :: rest)
  | cs => readNatural cs

/-- The labels of a name, without an empty one at the end. -/
def labels (cs : List Char) : List (List Char) :=
  let pieces := piecesAt '.' cs
  if pieces.getLast? = some [] then pieces.dropLast else pieces

/-- The last label is a number, so the name has to be an address. -/
def endsInNumber (cs : List Char) : Bool :=
  match (labels cs).getLast? with
  | some last => (!last.isEmpty && last.all Char.isDigit) || (addressNumber? last).isSome
  | none => false

/-- The name is an address of the fourth version: up to four numbers, the last of which
stands for all bytes that are left. -/
def isNumericAddress (cs : List Char) : Bool :=
  match (labels cs).reverse.mapM addressNumber? with
  | some (last :: numbers) =>
    numbers.length ≤ 3 && last < twoTo (8 * (4 - numbers.length)) && numbers.all (· ≤ 255)
  | _ => false

/-- The characters that bytes in the form UTF-8 stand for. -/
def decoded (bytes : List UInt8) : Option (List Char) :=
  (String.fromUTF8? ⟨bytes.toArray⟩).map String.toList

/-- The bytes of a name, percent signs resolved. -/
def bytesOf : List Char → List UInt8
  | [] => []
  | '%' :: c :: d :: cs =>
    match hexDigit? c, hexDigit? d with
    | some high, some low => UInt8.ofNat (16 * high + low) :: bytesOf cs
    | _, _ => 0x25 :: bytesOf (c :: d :: cs)
  | c :: cs => (String.singleton c).toUTF8.toList ++ bytesOf cs
termination_by cs => cs.length

end Domain

/-- A name or address as a host of the web. -/
def isWebHost (cs : List Char) : Bool :=
  match (Domain.decoded (Domain.bytesOf cs)).bind Domain.normal with
  | some name =>
    !name.isEmpty && Domain.areLabels (piecesAt '.' name) &&
      (!Domain.endsInNumber name || Domain.isNumericAddress name)
  | none => false

end RecordRules

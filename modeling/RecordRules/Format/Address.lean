import RecordRules.Number.Reading
import RecordRules.Text.Code
import RecordRules.Text.Pieces

/-!
# Network addresses

The text forms of internet addresses.  One of the fourth version is four decimal bytes
with points between them.  One of the sixth version is eight groups of hexadecimal
digits with colons between them; the last two groups may be written as an address of
the fourth version, and one run of groups, which are then zero, may be left out.  A block
is an address and the number of its fixed bits.

Network cards have addresses of six or eight bytes: as pairs of hexadecimal digits with
colons or hyphens between them, or as three or four groups of four digits with points
between them.
-/

namespace RecordRules

/-- A decimal byte: at most three digits, without a zero in front. -/
def isDecimalByte (cs : List Char) : Bool :=
  match readNatural cs with
  | some n => cs.length ≤ 3 && n ≤ 255 && (cs.head? ≠ some '0' || cs.length = 1)
  | none => false

/-- An address of the fourth version. -/
def isIpv4Address (cs : List Char) : Bool :=
  let bytes := piecesAt '.' cs
  bytes.length = 4 && bytes.all isDecimalByte

/-- A group of one to four hexadecimal digits. -/
def isHexGroup (cs : List Char) : Bool :=
  !cs.isEmpty && cs.length ≤ 4 && cs.all fun c => (hexDigit? c).isSome

/-- How many groups the pieces of an address stand for.  The last piece may be an address
of the fourth version, if `v4` allows it; it stands for two. -/
def groupCount (v4 : Bool) : List (List Char) → Option Nat
  | [] => some 0
  | [piece] =>
    if isHexGroup piece then some 1 else if v4 && isIpv4Address piece then some 2 else none
  | piece :: pieces => if isHexGroup piece then (groupCount v4 pieces).map (· + 1) else none

/-- How many groups stand on one side of a gap, where there may be none. -/
def sideCount (v4 : Bool) (cs : List Char) : Option Nat :=
  if cs.isEmpty then some 0 else groupCount v4 (piecesAt ':' cs)

/-- What stands before and after the first two colons in a row. -/
def cutAtGap : List Char → Option (List Char × List Char)
  | ':' :: ':' :: after => some ([], after)
  | c :: cs => (cutAtGap cs).map fun (before, after) => (c :: before, after)
  | [] => none

/-- An address of the sixth version.  Groups that are left out are at least one. -/
def isIpv6Address (cs : List Char) : Bool :=
  match cutAtGap cs with
  | some (before, after) =>
    match sideCount false before, sideCount true after with
    | some m, some n => m + n ≤ 7
    | _, _ => false
  | none => groupCount true (piecesAt ':' cs) == some 8

/-- An address of either version. -/
def isIpAddress (cs : List Char) : Bool :=
  isIpv4Address cs || isIpv6Address cs

/-- An address, a slash and a number of bits; the number may have a plus in front. -/
def isAddressBlock (cs : List Char) : Bool :=
  match cutAt '/' cs with
  | some (address, bits) =>
    match readInteger false bits with
    | some n => (isIpv4Address address && n ≤ 32) || (isIpv6Address address && n ≤ 128)
    | none => false
  | none => false

/-! ## Hardware addresses -/

/-- So many hexadecimal digits and nothing else. -/
def isHexRun (count : Nat) (cs : List Char) : Bool :=
  cs.length = count && cs.all fun c => (hexDigit? c).isSome

/-- A hardware address. -/
def isHardwareAddress (cs : List Char) : Bool :=
  let pairs := piecesAt ':' (cs.map fun c => if c = '-' then ':' else c)
  let groups := piecesAt '.' cs
  ((pairs.length = 6 || pairs.length = 8) && pairs.all (isHexRun 2)) ||
    ((groups.length = 3 || groups.length = 4) && groups.all (isHexRun 4))

end RecordRules

import RecordRules.Number.Shortest

/-!
# The text of a number

A finite floating-point number is written with its shortest decimal.  A `NumberStyle`
says when that decimal is written with an exponent and whether a number without
fraction keeps a point.
-/

namespace RecordRules

/-- How a decimal is laid out. -/
structure NumberStyle where
  /-- Numbers without fraction end in `.0`. -/
  keepsPoint : Bool
  /-- Only magnitudes from `10 ^ range.1` up to below `10 ^ range.2` are written
  without an exponent. -/
  positional : Option (Int × Int)

namespace NumberStyle

/-- Never an exponent, and a point only before a fraction. -/
def plain : NumberStyle := ⟨false, none⟩

/-- A mark of being a floating-point number: a point or an exponent. -/
def marked : NumberStyle := ⟨true, some (-4, 16)⟩

end NumberStyle

namespace Decimal

/-- As many zeros. -/
def zeros (n : Nat) : List Char :=
  List.replicate n '0'

/-- All digits around the point. -/
def positionalText (d : Decimal) (keepsPoint : Bool) : List Char :=
  let text := Nat.toDigits 10 d.digits
  let point : Int := text.length + d.exponent
  if 0 ≤ d.exponent then
    text ++ zeros d.exponent.toNat ++ (if keepsPoint then ['.', '0'] else [])
  else if 0 < point then text.take point.toNat ++ '.' :: text.drop point.toNat
  else '0' :: '.' :: zeros (-point).toNat ++ text

/-- One digit before the point, and an exponent. -/
def exponentText (d : Decimal) : List Char :=
  let text := Nat.toDigits 10 d.digits
  let exponent : Int := text.length + d.exponent - 1
  let fraction := match text.drop 1 with
    | [] => []
    | rest => '.' :: rest
  text.take 1 ++ fraction ++ 'e' :: (toString exponent).toList

/-- The decimal in a style. -/
def layout (style : NumberStyle) (d : Decimal) : List Char :=
  match style.positional with
  | none => d.positionalText style.keepsPoint
  | some (low, high) =>
    let point : Int := (Nat.toDigits 10 d.digits).length + d.exponent
    if low < point && point ≤ high then d.positionalText style.keepsPoint else d.exponentText

end Decimal

namespace Binary

variable {f : BinaryFormat}

/-- The text of a number in a style. -/
def layout (style : NumberStyle) : Binary f → List Char
  | .nan => "NaN".toList
  | .infinite negative => (if negative then ['-'] else []) ++ "inf".toList
  | .finite negative digits exponent _ =>
    let magnitude :=
      if digits = 0 then '0' :: (if style.keepsPoint then ['.', '0'] else [])
      else (shortestDecimal f digits exponent).layout style
    (if negative then ['-'] else []) ++ magnitude

/-- The text of a number in rules, messages and values. -/
def text (x : Binary f) : String :=
  String.ofList (x.layout .plain)

/-- The text of a number where its type should show. -/
def markedText (x : Binary f) : String :=
  String.ofList (x.layout .marked)

end Binary

end RecordRules

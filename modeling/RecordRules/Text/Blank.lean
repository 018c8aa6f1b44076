import RecordRules.Text.CodeRange

/-!
# Blanks

The characters that separate tokens and that trimming removes: the Unicode
property `White_Space`.
-/

namespace RecordRules

/-- The blanks beyond ASCII. -/
def blankRanges : CodeRanges :=
  [(0x85, 0x85), (0xa0, 0xa0), (0x1680, 0x1680), (0x2000, 0x200a), (0x2028, 0x2029),
    (0x202f, 0x202f), (0x205f, 0x205f), (0x3000, 0x3000)]

/-- The character has the property `White_Space`. -/
def isBlank (c : Char) : Bool :=
  c == ' ' || (0x09 ≤ c.toNat && c.toNat ≤ 0x0d) || blankRanges.Covers c.toNat

/-- The characters that are left when blanks are removed at the front. -/
def dropBlanks (cs : List Char) : List Char :=
  cs.dropWhile isBlank

/-- The characters that are left when blanks are removed at both ends. -/
def trimBlanks (cs : List Char) : List Char :=
  (dropBlanks (dropBlanks cs).reverse).reverse

end RecordRules

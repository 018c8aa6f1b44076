/-!
# Sets of characters given by ranges

A character property of the Unicode standard is kept as the list of its closed
ranges of code points.  `CodeRanges.Covers` is membership in such a list.  Capital and
small letters often alternate, so their tables consist of rows that may leave out every
second code point; `CodeRows.ranges` writes the rows out.  Most scripts keep their capitals
at a fixed distance from their small letters, so a table from one to the other consists of
rows, too, and `ShiftRow.pairs` writes those out.
-/

namespace RecordRules

/-- Closed ranges of code points, in ascending order. -/
abbrev CodeRanges := List (Nat × Nat)

namespace CodeRanges

/-- Some range holds the code point. -/
def Covers (ranges : CodeRanges) (code : Nat) : Bool :=
  ranges.any fun range => range.1 ≤ code && code ≤ range.2

end CodeRanges

/-- Code points from the first to the second, by steps of the third. -/
abbrev CodeRows := List (Nat × Nat × Nat)

namespace CodeRows

/-- The ranges of one row. -/
def rowRanges (low high step : Nat) : CodeRanges :=
  if step = 1 then [(low, high)]
  else (List.range ((high - low) / step + 1)).map fun i => (low + step * i, low + step * i)

/-- The ranges of all rows, row after row. -/
def ranges (rows : CodeRows) : CodeRanges :=
  rows.flatMap fun row => rowRanges row.1 row.2.1 row.2.2

end CodeRows

/-- The characters from `first` to `last`, every `step`-th one, go with the character so
many places further. -/
structure ShiftRow where
  first : Nat
  last : Nat
  step : Nat
  shift : Int

namespace ShiftRow

/-- The characters of the row with those that go with them. -/
def pairs (row : ShiftRow) : List (Nat × Nat) :=
  (List.range ((row.last - row.first) / row.step + 1)).map fun i =>
    let code := row.first + row.step * i
    (code, ((code : Int) + row.shift).toNat)

end ShiftRow

end RecordRules

import RecordRules.Text.CodeRange

/-!
# The algebra of character sets

A set of characters is a list of ranges of code points that are in ascending order and
neither overlap nor touch.  Every operation gives such a list again, so that the list
also tells how much work a set makes: that is what the size of a pattern is counted by.

Between the code points of characters there is a gap of surrogates.  A range may span
it, and what comes next to it on either side are the two characters beside the gap.
-/

namespace RecordRules

namespace CodeRanges

/-- Ascending ranges, with those joined that overlap or touch. -/
def joined : CodeRanges → CodeRanges
  | [] => []
  | [range] => [range]
  | first :: second :: rest =>
    if second.1 ≤ first.2 + 1 then joined ((first.1, max first.2 second.2) :: rest)
    else first :: joined (second :: rest)
termination_by ranges => ranges.length

/-- What two lists of ranges have in common. -/
def inter : CodeRanges → CodeRanges → CodeRanges
  | [], _ => []
  | _, [] => []
  | a :: as, b :: bs =>
    let rest := if a.2 < b.2 then inter as (b :: bs) else inter (a :: as) bs
    if max a.1 b.1 ≤ min a.2 b.2 then (max a.1 b.1, min a.2 b.2) :: rest else rest
termination_by as bs => as.length + bs.length

/-- The code point of the character after this one. -/
def next (code : Nat) : Nat :=
  if code = 0xd7ff then 0xe000 else code + 1

/-- The code point of the character before this one. -/
def previous (code : Nat) : Nat :=
  if code = 0xe000 then 0xd7ff else code - 1

/-- What is in the first list of ranges only. -/
def diff : CodeRanges → CodeRanges → CodeRanges
  | [], _ => []
  | as, [] => as
  | a :: as, b :: bs =>
    if b.2 < a.1 then diff (a :: as) bs
    else if a.2 < b.1 then a :: diff as (b :: bs)
    else
      let rest := if b.2 < a.2 then diff ((next b.2, a.2) :: as) bs else diff as (b :: bs)
      if a.1 < b.1 then (a.1, previous b.1) :: rest else rest
termination_by as bs => as.length + bs.length

/-- The gaps after a range that ends at a code point.  Two ranges that leave out only
the surrogates between them have the pair of characters beside those for a gap. -/
def gapsAfter : Nat → CodeRanges → CodeRanges
  | last, [] => if last < 0x10ffff then [(next last, 0x10ffff)] else []
  | last, range :: rest =>
    let low := next last
    let high := previous range.1
    (min low high, max low high) :: gapsAfter range.2 rest

/-- All gaps between ranges, before the first and after the last. -/
def gaps : CodeRanges → CodeRanges
  | [] => [(0, 0x10ffff)]
  | range :: rest =>
    if 0 < range.1 then (0, previous range.1) :: gapsAfter range.2 rest
    else gapsAfter range.2 rest

end CodeRanges

/-- A set of characters. -/
structure CharSet where
  ranges : CodeRanges
deriving DecidableEq, Repr

namespace CharSet

/-- The character belongs to the set. -/
def contains (s : CharSet) (c : Char) : Bool :=
  s.ranges.Covers c.toNat

/-- No character. -/
def empty : CharSet :=
  ⟨[]⟩

/-- Every character. -/
def all : CharSet :=
  ⟨[(0, 0x10ffff)]⟩

/-- The characters from one to another. -/
def range (low high : Char) : CharSet :=
  ⟨[(low.toNat, high.toNat)]⟩

/-- One character. -/
def single (c : Char) : CharSet :=
  range c c

/-- The characters of some ranges in any order. -/
def ofRanges (ranges : CodeRanges) : CharSet :=
  ⟨CodeRanges.joined (ranges.mergeSort fun a b => a.1 ≤ b.1)⟩

/-- The characters of either set. -/
def union (s t : CharSet) : CharSet :=
  ⟨CodeRanges.joined (List.merge s.ranges t.ranges fun a b => a.1 ≤ b.1)⟩

/-- The characters of some of the sets. -/
def unions (sets : List CharSet) : CharSet :=
  sets.foldl union empty

/-- The characters of both sets. -/
def inter (s t : CharSet) : CharSet :=
  ⟨s.ranges.inter t.ranges⟩

/-- The characters of the first set that are not in the second. -/
def diff (s t : CharSet) : CharSet :=
  ⟨s.ranges.diff t.ranges⟩

/-- The characters of exactly one of the sets. -/
def symmDiff (s t : CharSet) : CharSet :=
  (s.union t).diff (s.inter t)

/-- All other characters. -/
def compl (s : CharSet) : CharSet :=
  ⟨s.ranges.gaps⟩

/-- The characters of some code points more. -/
def withCodes (s : CharSet) (ranges : CodeRanges) : CharSet :=
  s.union (ofRanges ranges)

/-- The characters without those of some code points. -/
def withoutCodes (s : CharSet) (ranges : CodeRanges) : CharSet :=
  s.diff (ofRanges ranges)

/-- All characters are ASCII characters. -/
def isAscii (s : CharSet) : Bool :=
  s.ranges.all fun range => range.2 < 0x80

/-- The only character of a set that has only one. -/
def only? (s : CharSet) : Option Char :=
  match s.ranges with
  | [(low, high)] => if low = high then some (Char.ofNat low) else none
  | _ => none

/-- The same set, where case is known for ASCII letters only. -/
def asciiFolded (s : CharSet) : CharSet :=
  let capitals := (s.inter (range 'A' 'Z')).ranges.map fun r => (r.1 + 32, r.2 + 32)
  let small := (s.inter (range 'a' 'z')).ranges.map fun r => (r.1 - 32, r.2 - 32)
  s.withCodes (small ++ capitals)

/-- The classes of ASCII characters that have a name. -/
def named? : String → Option CharSet
  | "alnum" => some (ofRanges [(0x30, 0x39), (0x41, 0x5a), (0x61, 0x7a)])
  | "alpha" => some (ofRanges [(0x41, 0x5a), (0x61, 0x7a)])
  | "ascii" => some (range '\x00' '\x7f')
  | "blank" => some (ofRanges [(0x9, 0x9), (0x20, 0x20)])
  | "cntrl" => some (ofRanges [(0x0, 0x1f), (0x7f, 0x7f)])
  | "digit" => some (range '0' '9')
  | "graph" => some (range '!' '~')
  | "lower" => some (range 'a' 'z')
  | "print" => some (range ' ' '~')
  | "punct" => some (ofRanges [(0x21, 0x2f), (0x3a, 0x40), (0x5b, 0x60), (0x7b, 0x7e)])
  | "space" => some (ofRanges [(0x9, 0xd), (0x20, 0x20)])
  | "upper" => some (range 'A' 'Z')
  | "word" => some (ofRanges [(0x30, 0x39), (0x41, 0x5a), (0x5f, 0x5f), (0x61, 0x7a)])
  | "xdigit" => some (ofRanges [(0x30, 0x39), (0x41, 0x46), (0x61, 0x66)])
  | _ => none

end CharSet

end RecordRules

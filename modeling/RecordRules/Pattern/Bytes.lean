import RecordRules.Text.CharSet

/-!
# Sets of characters as bytes

A machine reads a text as bytes in the form UTF-8.  A range of characters is a number of
sequences of byte ranges, and a set, which is many such sequences in ascending order, is
a tree: sequences that start with the same byte ranges share them.
-/

namespace RecordRules

/-- Ranges of bytes, one for each place. -/
abbrev ByteRanges := List (Nat × Nat)

namespace ByteRanges

/-- The bytes of a code point. -/
def encode (code : Nat) : List Nat :=
  if code < 0x80 then [code]
  else if code < 0x800 then [0xc0 + code / 0x40, 0x80 + code % 0x40]
  else if code < 0x10000 then
    [0xe0 + code / 0x1000, 0x80 + code / 0x40 % 0x40, 0x80 + code % 0x40]
  else
    [0xf0 + code / 0x40000, 0x80 + code / 0x1000 % 0x40, 0x80 + code / 0x40 % 0x40,
      0x80 + code % 0x40]

/-- Any later bytes, as many as these. -/
def anyLater (bytes : List Nat) : ByteRanges :=
  bytes.map fun _ => (0x80, 0xbf)

/-- The later bytes from these on. -/
def fromOn : List Nat → List ByteRanges
  | [] => [[]]
  | b :: bs =>
    if bs.all (· == 0x80) then [(b, 0xbf) :: anyLater bs]
    else
      let above := if b < 0xbf then [(b + 1, 0xbf) :: anyLater bs] else []
      (fromOn bs).map ((b, b) :: ·) ++ above

/-- The later bytes up to these. -/
def upTo : List Nat → List ByteRanges
  | [] => [[]]
  | b :: bs =>
    if bs.all (· == 0xbf) then [(0x80, b) :: anyLater bs]
    else
      let below := if 0x80 < b then [(0x80, b - 1) :: anyLater bs] else []
      below ++ (upTo bs).map ((b, b) :: ·)

/-- The bytes of one length from the first to the second. -/
def between : List Nat → List Nat → List ByteRanges
  | a :: as, b :: bs =>
    if a = b then (between as bs).map ((a, b) :: ·)
    else
      let startsLow := as.all (· == 0x80)
      let endsHigh := bs.all (· == 0xbf)
      let low := if startsLow then [] else (fromOn as).map ((a, a) :: ·)
      let high := if endsHigh then [] else (upTo bs).map ((b, b) :: ·)
      let first := if startsLow then a else a + 1
      let last := if endsHigh then b else b - 1
      low ++ (if first ≤ last then [(first, last) :: anyLater as] else []) ++ high
  | _, _ => [[]]

/-- The characters that take the same number of bytes, apart from the surrogates. -/
def lengths : CodeRanges :=
  [(0x0, 0x7f), (0x80, 0x7ff), (0x800, 0xd7ff), (0xe000, 0xffff), (0x10000, 0x10ffff)]

/-- The sequences of a set, in ascending order. -/
def ofSet (s : CharSet) : List ByteRanges :=
  (s.ranges.inter lengths).flatMap fun range => between (encode range.1) (encode range.2)

end ByteRanges

/-- Sequences of byte ranges, the first ranges of which are shared. -/
inductive ByteTree where
  | done
  /-- A byte range, what may follow it, and the other sequences at the same place. -/
  | branch (low high : Nat) (following others : ByteTree)
deriving DecidableEq, Repr

namespace ByteTree

/-- The tree of one sequence. -/
def ofRanges : ByteRanges → ByteTree
  | [] => done
  | range :: rest => branch range.1 range.2 (ofRanges rest) done

/-- The tree with a sequence before all others. -/
def prepend : ByteRanges → ByteTree → ByteTree
  | [], tree => tree
  | range :: rest, done => ofRanges (range :: rest)
  | range :: rest, branch low high following others =>
    if range.1 = low ∧ range.2 = high then branch low high (prepend rest following) others
    else branch range.1 range.2 (ofRanges rest) (branch low high following others)

/-- The tree of a set. -/
def ofSet (s : CharSet) : ByteTree :=
  (ByteRanges.ofSet s).foldr prepend done

end ByteTree

end RecordRules

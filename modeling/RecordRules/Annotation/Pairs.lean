import RecordRules.Annotation.Unquote
import RecordRules.Text.Code

/-!
# Annotations

An annotation is a text of `name:"value"` entries, such as
`validate:"min(1) && max(10)" default:"1"`.  A `PairScanner` reads it entry by entry.
The first thing that is no entry ends the scan for good, and what was read before it
stays in effect.
-/

namespace RecordRules

/-- One entry of an annotation. -/
structure Pair where
  name : String
  /-- The value with its quotes, as written. -/
  quoted : String
  /-- The value that the quoted text stands for. -/
  value : String
deriving DecidableEq

/-- A character that may stand in the name of an entry. -/
def isEntryNameChar (c : Char) : Bool :=
  ' ' < c && c ≠ ':' && c ≠ '"' && c ≠ '\x7f'

/-- How many characters lead up to and with the closing quote; a backslash hides the
character after it. -/
def closingQuote : List Char → Option Nat
  | [] => none
  | '"' :: _ => some 1
  | ['\\'] => none
  | '\\' :: _ :: cs => (closingQuote cs).map (· + 2)
  | _ :: cs => (closingQuote cs).map (· + 1)

/-- The entry at the front of a text, and the number of characters it takes with the
spaces before it. -/
def Pair.read? (cs : List Char) : Option (Pair × Nat) :=
  let spaces := cs.takeWhile (· = ' ')
  let text := cs.dropWhile (· = ' ')
  let name := text.takeWhile isEntryNameChar
  if name.isEmpty then none
  else
    match text.dropWhile isEntryNameChar with
    | ':' :: '"' :: body =>
      (closingQuote body).bind fun n =>
        let quoted := String.ofList ('"' :: body.take n)
        match unquote quoted with
        | .ok value =>
          some (⟨String.ofList name, quoted, value⟩, spaces.length + name.length + 2 + n)
        | .error _ => none
    | _ => none

/-- A place in an annotation: the text still to be read, how many bytes the entries
read so far took, and whether the scan has ended. -/
structure PairScanner where
  rest : List Char
  consumed : Nat := 0
  done : Bool := false

namespace PairScanner

/-- The start of an annotation. -/
def start (text : String) : PairScanner :=
  { rest := text.toList }

/-- The next entry, if there is one, and the place after it. -/
def next (s : PairScanner) : Option Pair × PairScanner :=
  if s.done then (none, s)
  else
    match Pair.read? s.rest with
    | some (pair, n) =>
      (some pair,
        { s with rest := s.rest.drop n, consumed := s.consumed + byteLength (s.rest.take n) })
    | none => (none, { s with done := true })

/-- The entry takes at least its name, a colon and two quotes. -/
theorem length_of_read? {cs : List Char} {pair : Pair} {n : Nat}
    (h : Pair.read? cs = some (pair, n)) : 0 < n ∧ 0 < cs.length := by
  cases cs with
  | nil => cases h
  | cons c cs =>
    refine ⟨?_, Nat.succ_pos _⟩
    simp only [Pair.read?] at h
    split at h
    · cases h
    · split at h
      · obtain ⟨k, -, h⟩ := Option.bind_eq_some_iff.1 h
        split at h
        · cases h; omega
        · cases h
      · cases h

theorem next_shorter {s after : PairScanner} {pair : Pair} (h : s.next = (some pair, after)) :
    after.rest.length < s.rest.length := by
  simp only [next] at h
  split at h
  · cases h
  · split at h
    · next read =>
      cases h
      have := length_of_read? read
      simp only [List.length_drop]
      omega
    · cases h

/-- All entries from a place on, and the place where the scan ends. -/
def collect (s : PairScanner) : List Pair × PairScanner :=
  match _h : s.next with
  | (some pair, after) =>
    let (pairs, final) := collect after
    (pair :: pairs, final)
  | (none, after) => ([], after)
termination_by s.rest.length
decreasing_by exact next_shorter ‹_›

end PairScanner

/-- The entries of an annotation, in order. -/
def annotationPairs (text : String) : List Pair :=
  (PairScanner.start text).collect.1

/-- The name that a naming entry such as `json:"count,omitempty"` gives: what stands
before the first comma, unless that is empty or a dash. -/
def displayName (value : String) : Option String :=
  let name := String.ofList (value.toList.takeWhile (· ≠ ','))
  if name = "" ∨ name = "-" then none else some name

end RecordRules

import RecordRules.Text.Property

/-!
# Patterns

A pattern matches parts of a text.  Matching is by position: `Pattern.ends` tells which
positions a match can end at that starts at one of the given positions, so there is no
order among the ways to match and nothing is tried twice.  `Pattern.occursIn` says
whether the pattern matches some part of the text.

Patterns are put together by `ofSet`, `repeated`, `inSequence` and `anyOf`, which keep
them plain: what always matches nothing is left out, characters side by side are one
literal, and a choice among characters is a set.
-/

namespace RecordRules

/-- The character may stand inside a word. -/
def isWordChar (c : Char) : Bool :=
  CharSet.wordChars.contains c

/-- The character may stand inside a word, ASCII characters only. -/
def isAsciiWordChar (c : Char) : Bool :=
  c.isAlphanum || c == '_'

/-- A condition on a position in a text. -/
inductive Assertion where
  | textStart
  | textEnd
  | lineStart (crlf : Bool)
  | lineEnd (crlf : Bool)
  | wordBoundary (ascii : Bool)
  | noWordBoundary (ascii : Bool)
  | wordStart (ascii : Bool)
  | wordEnd (ascii : Bool)
  /-- No word character comes before. -/
  | wordStartHalf (ascii : Bool)
  /-- No word character comes after. -/
  | wordEndHalf (ascii : Bool)
deriving DecidableEq, Repr

namespace Assertion

/-- A word character comes before the position. -/
def wordBefore (text : Array Char) (ascii : Bool) (position : Nat) : Bool :=
  0 < position && (text[position - 1]?).any (if ascii then isAsciiWordChar else isWordChar)

/-- A word character comes after the position. -/
def wordAfter (text : Array Char) (ascii : Bool) (position : Nat) : Bool :=
  (text[position]?).any (if ascii then isAsciiWordChar else isWordChar)

/-- The condition holds at a position. -/
def Holds (text : Array Char) (position : Nat) (a : Assertion) : Bool :=
  let before := if position = 0 then none else text[position - 1]?
  let after := text[position]?
  match a with
  | textStart => position == 0
  | textEnd => position == text.size
  | lineStart false => before.isNone || before == some '\n'
  | lineEnd false => after.isNone || after == some '\n'
  | lineStart true =>
    before.isNone || before == some '\n' || (before == some '\r' && after != some '\n')
  | lineEnd true =>
    after.isNone || after == some '\r' || (after == some '\n' && before != some '\r')
  | wordBoundary ascii => wordBefore text ascii position != wordAfter text ascii position
  | noWordBoundary ascii => wordBefore text ascii position == wordAfter text ascii position
  | wordStart ascii => !wordBefore text ascii position && wordAfter text ascii position
  | wordEnd ascii => wordBefore text ascii position && !wordAfter text ascii position
  | wordStartHalf ascii => !wordBefore text ascii position
  | wordEndHalf ascii => !wordAfter text ascii position

end Assertion

/-- A pattern. -/
inductive Pattern where
  | empty
  | literal (text : List Char)
  | char (set : CharSet)
  | assertion (a : Assertion)
  /-- At least and at most so many matches, one after the other; without a bound on
  their number if there is none.  A greedy one prefers many. -/
  | repetition (part : Pattern) (least : Nat) (most : Option Nat) (greedy : Bool)
  /-- A part with a number, counted by opening parentheses. -/
  | group (index : Nat) (part : Pattern)
  | sequence (parts : List Pattern)
  | choice (branches : List Pattern)
deriving Repr

namespace Pattern

instance : Inhabited Pattern := ⟨.empty⟩

mutual

/-- The patterns are the same. -/
def same : Pattern → Pattern → Bool
  | empty, empty => true
  | literal cs, literal ds => cs == ds
  | char s, char t => s == t
  | assertion a, assertion b => a == b
  | repetition p least most greedy, repetition q least' most' greedy' =>
    p.same q && least == least' && most == most' && greedy == greedy'
  | group i p, group j q => i == j && p.same q
  | sequence ps, sequence qs => areSame ps qs
  | choice ps, choice qs => areSame ps qs
  | _, _ => false

/-- The patterns of the lists are the same, one by one. -/
def areSame : List Pattern → List Pattern → Bool
  | [], [] => true
  | p :: ps, q :: qs => p.same q && areSame ps qs
  | _, _ => false

end

mutual

theorem same_iff : ∀ {p q : Pattern}, p.same q = true ↔ p = q
  | empty, q => by cases q <;> simp [same]
  | literal _, q => by cases q <;> simp [same]
  | char _, q => by cases q <;> simp [same]
  | assertion _, q => by cases q <;> simp [same]
  | repetition p _ _ _, q => by
    have ih {q : Pattern} : p.same q = true ↔ p = q := same_iff
    cases q <;> simp [same, ih, and_assoc]
  | group _ p, q => by
    have ih {q : Pattern} : p.same q = true ↔ p = q := same_iff
    cases q <;> simp [same, ih]
  | sequence ps, q => by
    have ih {qs : List Pattern} : areSame ps qs = true ↔ ps = qs := areSame_iff
    cases q <;> simp [same, ih]
  | choice ps, q => by
    have ih {qs : List Pattern} : areSame ps qs = true ↔ ps = qs := areSame_iff
    cases q <;> simp [same, ih]

theorem areSame_iff : ∀ {ps qs : List Pattern}, areSame ps qs = true ↔ ps = qs
  | [], qs => by cases qs <;> simp [areSame]
  | p :: ps, qs => by
    have ih {q : Pattern} : p.same q = true ↔ p = q := same_iff
    have ih' {qs : List Pattern} : areSame ps qs = true ↔ ps = qs := areSame_iff
    cases qs <;> simp [areSame, ih, ih']

end

instance : DecidableEq Pattern := fun _ _ => decidable_of_iff _ same_iff

/-! ## Matching -/

/-- The characters stand in the text from a position on. -/
def standsAt (text : Array Char) : Nat → List Char → Bool
  | _, [] => true
  | position, c :: cs => text[position]? == some c && standsAt text (position + 1) cs

/-- Two ascending lists of positions in one. -/
def merge : List Nat → List Nat → List Nat
  | [], ys => ys
  | xs, [] => xs
  | x :: xs, y :: ys =>
    if x < y then x :: merge xs (y :: ys)
    else if y < x then y :: merge (x :: xs) ys
    else x :: merge xs ys
termination_by xs ys => xs.length + ys.length

/-- So many steps from a list of positions, as long as they lead anywhere else. -/
def stepped (step : List Nat → List Nat) : Nat → List Nat → List Nat
  | 0, positions => positions
  | n + 1, positions =>
    let further := step positions
    if further = positions then positions else stepped step n further

/-- What at most so many steps reach, those of no step included. -/
def reached (step : List Nat → List Nat) : Nat → List Nat → List Nat
  | 0, positions => positions
  | n + 1, positions =>
    let more := merge positions (step positions)
    if more = positions then positions else reached step n more

mutual

/-- The positions at which matches end that start at one of the given ones, in
ascending order. -/
def ends (text : Array Char) : Pattern → List Nat → List Nat
  | empty, positions => positions
  | literal cs, positions =>
    (positions.filter fun i => standsAt text i cs).map (· + cs.length)
  | char s, positions =>
    (positions.filter fun i => (text[i]?).any s.contains).map (· + 1)
  | assertion a, positions => positions.filter fun i => a.Holds text i
  | repetition part least most _, positions =>
    let step := ends text part
    let start := stepped step least positions
    match most with
    | some most => reached step (most - least) start
    | none => reached step (text.size + 1) start
  | group _ part, positions => ends text part positions
  | sequence parts, positions => endsOfSequence text parts positions
  | choice branches, positions => endsOfChoice text branches positions

/-- Matches of one pattern after the other. -/
def endsOfSequence (text : Array Char) : List Pattern → List Nat → List Nat
  | [], positions => positions
  | p :: ps, positions => endsOfSequence text ps (ends text p positions)

/-- Matches of one of the patterns. -/
def endsOfChoice (text : Array Char) : List Pattern → List Nat → List Nat
  | [], _ => []
  | p :: ps, positions => merge (ends text p positions) (endsOfChoice text ps positions)

end

/-- The pattern matches some part of the text. -/
def occursIn (text : String) (p : Pattern) : Bool :=
  let chars := text.toList.toArray
  !(p.ends chars (List.range (chars.size + 1))).isEmpty

/-! ## The length of matches -/

mutual

/-- How many characters a match has at least; nothing where there is no match. -/
def leastLength? : Pattern → Option Nat
  | empty => some 0
  | literal cs => some cs.length
  | char s => if s.ranges.isEmpty then none else some 1
  | assertion _ => some 0
  | repetition part least _ _ => part.leastLength?.map (least * ·)
  | group _ part => part.leastLength?
  | sequence parts => leastTotal? parts
  | choice branches => leastOfAll? branches

/-- The least lengths of patterns in a row, put together. -/
def leastTotal? : List Pattern → Option Nat
  | [] => some 0
  | p :: ps => do return (← p.leastLength?) + (← leastTotal? ps)

/-- The least of the least lengths, where all have one. -/
def leastOfAll? : List Pattern → Option Nat
  | [] => none
  | [p] => p.leastLength?
  | p :: ps => do return min (← p.leastLength?) (← leastOfAll? ps)

end

mutual

/-- How many characters a match has at most; nothing where there is no bound, or no
match. -/
def greatestLength? : Pattern → Option Nat
  | empty => some 0
  | literal cs => some cs.length
  | char s => if s.ranges.isEmpty then none else some 1
  | assertion _ => some 0
  | repetition part _ most _ => do return (← most) * (← part.greatestLength?)
  | group _ part => part.greatestLength?
  | sequence parts => greatestTotal? parts
  | choice branches => greatestOfAll? branches

/-- The greatest lengths of patterns in a row, put together. -/
def greatestTotal? : List Pattern → Option Nat
  | [] => some 0
  | p :: ps => do return (← p.greatestLength?) + (← greatestTotal? ps)

/-- The greatest of the greatest lengths, where all have one. -/
def greatestOfAll? : List Pattern → Option Nat
  | [] => none
  | [p] => p.greatestLength?
  | p :: ps => do return max (← p.greatestLength?) (← greatestOfAll? ps)

end

/-- No match of the pattern has a character. -/
def isWidthless (p : Pattern) : Bool :=
  p.greatestLength? == some 0

/-! ## Putting patterns together -/

/-- One character of a set. -/
def ofSet (s : CharSet) : Pattern :=
  match s.only? with
  | some c => literal [c]
  | none => char s

/-- A pattern so many times.  More than once makes no difference where no match has a
character. -/
def repeated (part : Pattern) (least : Nat) (most : Option Nat) (greedy : Bool) : Pattern :=
  let (least, most) :=
    if part.isWidthless then (min least 1, some (min (most.getD 1) 1)) else (least, most)
  if most = some 0 then empty
  else if least = 1 ∧ most = some 1 then part
  else repetition part least most greedy

/-- Patterns in a row, with the literals joined that stand side by side. -/
def joinLiterals : List Pattern → List Pattern
  | [] => []
  | literal cs :: ps =>
    match joinLiterals ps with
    | literal ds :: others => literal (cs ++ ds) :: others
    | others => literal cs :: others
  | p :: ps => p :: joinLiterals ps

/-- One pattern after the other. -/
def inSequence (parts : List Pattern) : Pattern :=
  let flat := parts.flatMap fun p => match p with
    | empty => []
    | sequence ps => ps
    | p => [p]
  match joinLiterals flat with
  | [] => empty
  | [p] => p
  | ps => sequence ps

/-- The set of a pattern that is just one. -/
def asSet? : Pattern → Option CharSet
  | char s => some s
  | _ => none

/-- The character of a pattern that is just one. -/
def asChar? : Pattern → Option Char
  | literal [c] => some c
  | _ => none

/-- The patterns of a sequence. -/
def asSequence? : Pattern → Option (List Pattern)
  | sequence ps => some ps
  | _ => none

/-- What two lists of patterns start with. -/
def commonPrefix : List Pattern → List Pattern → List Pattern
  | p :: ps, q :: qs => if p == q then p :: commonPrefix ps qs else []
  | _, _ => []

/-- One of several patterns, of which a choice among characters becomes a set. -/
def oneOf (branches : List Pattern) : Pattern :=
  let flat := branches.flatMap fun p => match p with
    | choice ps => ps
    | p => [p]
  match flat with
  | [] => char .empty
  | [p] => p
  | flat =>
    match flat.mapM asChar?, flat.mapM asSet? with
    | some cs, _ => ofSet (.ofRanges (cs.map fun c => (c.toNat, c.toNat)))
    | none, some sets => ofSet (.unions sets)
    | none, none => choice flat

/-- One of several patterns.  What all of them start with is matched first. -/
def anyOf (branches : List Pattern) : Pattern :=
  match oneOf branches with
  | choice flat =>
    match flat.mapM asSequence? with
    | some (first :: others) =>
      let shared := others.foldl commonPrefix first
      if shared.isEmpty then choice flat
      else
        let rests := (first :: others).map fun ps => inSequence (ps.drop shared.length)
        inSequence (shared ++ [oneOf rests])
    | _ => choice flat
  | p => p

end Pattern

end RecordRules

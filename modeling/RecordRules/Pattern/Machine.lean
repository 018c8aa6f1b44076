import Std.Data.HashMap
import RecordRules.Pattern.Basic
import RecordRules.Pattern.Bytes

/-!
# The size of a pattern

To match a pattern takes two machines that read bytes, one forwards and one backwards.
Neither of them is built here, but their size is counted exactly, because a pattern is
refused if one of them grows too large.  A machine consists of states of equal size; a
state with many transitions and a fork with many ways take some bytes more.  States are
numbered as they are added, and a fork counts its ways as they are joined to it.
-/

namespace RecordRules

/-- The size of a machine: its states, and the bytes that they take beside. -/
structure Machine where
  states : Nat := 0
  beside : Nat := 0
deriving DecidableEq, Repr

namespace Machine

/-- How many bytes a machine may take. -/
def greatestSize : Nat := 10485760

/-- How many bytes a machine takes. -/
def size (m : Machine) : Nat :=
  32 * m.states + m.beside

/-- The machine, unless it is too large. -/
def checked (m : Machine) : Option Machine :=
  if m.size ≤ greatestSize then some m else none

/-- A part of a machine is added to it; it fails where the machine gets too large. -/
abbrev Construction := StateT Machine Option

/-- Adds a state with some bytes beside, and gives its number. -/
def addState (beside : Nat) : Construction Nat := fun m =>
  (checked ⟨m.states + 1, m.beside + beside⟩).map fun larger => (m.states, larger)

/-- Joins so many ways to a fork. -/
def addWays (count : Nat) : Construction Unit := fun m =>
  (checked ⟨m.states, m.beside + 4 * count⟩).map fun larger => ((), larger)

/-- Joins what comes next to a part; that is one more way where the part ends in a fork. -/
def leave (fork : Bool) : Construction Unit :=
  if fork then addWays 1 else pure ()

/-- Adds a state that ends a part. -/
def addPlain : Construction Bool := do
  let _ ← addState 0
  return false

/-! ## Sets -/

/-- A byte range and the number of the state that it leads to. -/
abbrev Transition := Nat × Nat × Nat

/-- A key for short lists of numbers. -/
def key (numbers : List Nat) : Nat :=
  (numbers.foldl (fun (h : UInt64) n => (h ^^^ UInt64.ofNat n) * 1099511628211)
    14695981039346656037).toNat

/-- States that may be used again, each in a slot that the next one with the same slot
takes over. -/
abbrev Shelf (α : Type) := Std.HashMap Nat (α × Nat)

/-- The state for an item with a slot: the one on the shelf, or a new one with some bytes
beside. -/
def shelved {α : Type} [DecidableEq α] (slot : Nat) (item : α) (beside : Nat) :
    StateT (Shelf α) Construction Nat := do
  match (← get)[slot]? with
  | some (other, state) => if other = item then return state
  | none => pure ()
  let state ← (addState beside : Construction Nat)
  modify fun shelf => shelf.insert slot (item, state)
  return state

/-- A state with transitions. -/
def joint (transitions : List Transition) : StateT (Shelf (List Transition)) Construction Nat :=
  let numbers := transitions.flatMap fun t => [t.1, t.2.1, t.2.2]
  shelved (key numbers % 10000) transitions (8 * transitions.length)

/-- The transitions of a tree, after the states that they lead to. -/
def forwards (target : Nat) :
    ByteTree → StateT (Shelf (List Transition)) Construction (List Transition)
  | .done => return []
  | .branch low high following others => do
    let inner ← forwards target following
    let next ← if inner.isEmpty then pure target else joint inner
    let more ← forwards target others
    return (low, high, next) :: more

/-- The states for a sequence read backwards, from the state that its first byte leads
to. -/
def backwards : Nat → ByteRanges → StateT (Shelf (Nat × Nat × Nat)) Construction Unit
  | _, [] => return ()
  | state, range :: rest => do
    let item := (state, range.1, range.2)
    let next ← shelved (key [state, range.1, range.2] % 1000) item 0
    backwards next rest

/-- All sequences of a set read backwards, each one way of a fork. -/
def allBackwards (target : Nat) :
    List ByteRanges → StateT (Shelf (Nat × Nat × Nat)) Construction Unit
  | [] => return ()
  | sequence :: rest => do
    backwards target sequence
    (addWays 1 : Construction Unit)
    allBackwards target rest

/-- One character of a set. -/
def ofSet (reversed : Bool) (s : CharSet) : Construction Bool :=
  if s.isAscii then do
    let _ ← addState 0
    let _ ← addState (8 * s.ranges.length)
    return false
  else if reversed then
    let sequences := ByteRanges.ofSet s
    do
      let _ ← addState 0
      let target ← addState 0
      let _ ← (allBackwards target sequences).run {}
      return false
  else
    let tree := ByteTree.ofSet s
    do
      let target ← addState 0
      let _ ← (do joint (← forwards target tree)).run {}
      return false

/-! ## Literals -/

/-- So many plain states in a row. -/
def ofLength : Nat → Construction Bool
  | 0 => return false
  | n + 1 => do
    let _ ← addState 0
    ofLength n

/-- The bytes of a literal. -/
def literalBytes (reversed : Bool) (cs : List Char) : List Nat :=
  let bytes := cs.flatMap fun c => ByteRanges.encode c.toNat
  if reversed then bytes.reverse else bytes

/-- The runs of literals between those that have come to their end. -/
def runs : List (List Nat) → List (List (List Nat))
  | [] => [[]]
  | [] :: rest => [] :: runs rest
  | bytes :: rest =>
    match runs rest with
    | run :: others => (bytes :: run) :: others
    | [] => [[bytes]]

/-- What follows each of the bytes that literals of a run start with. -/
def followers (run : List (List Nat)) : List (List (List Nat)) :=
  let firsts := (run.filterMap List.head?).eraseDups
  firsts.map fun byte => run.filterMap fun bytes =>
    if bytes.head? = some byte then some bytes.tail else none

/-- The size of a tree in which literals share what they start with, as long as none of
them has come to its end before. -/
def ofLiterals : Nat → List (List Nat) → Machine
  | 0, _ => {}
  | depth + 1, literals =>
    if literals.all List.isEmpty then {}
    else
      let pieces := runs literals
      let early := literals.takeWhile List.isEmpty
      let exits := pieces.length - 1 - (early.length - 1)
      let full := pieces.filter fun run => !run.isEmpty
      let ways := full.length + exits
      full.foldl
        (fun m run =>
          let groups := followers run
          let own := if groups.length = 1 then 0 else 8 * groups.length
          groups.foldl
            (fun m group =>
              let part := ofLiterals depth group
              ⟨m.states + part.states, m.beside + part.beside⟩)
            ⟨m.states + 1, m.beside + own⟩)
        ⟨1, 4 * ways⟩

/-- The literals of a choice that consists of nothing else. -/
def literalsOf? (branches : List Pattern) : Option (List (List Char)) :=
  branches.mapM fun p => match p with
    | .literal cs => some cs
    | _ => none

/-! ## Patterns -/

/-- A part so many times more, after one that may have ended in a fork. -/
def again (one : Construction Bool) : Nat → Bool → Construction Bool
  | 0, fork => return fork
  | n + 1, fork => do
    let next ← one
    leave fork
    again one n next

/-- A part so many times. -/
def times (one : Construction Bool) : Nat → Construction Bool
  | 0 => addPlain
  | n + 1 => do
    let fork ← one
    again one n fork

/-- A part up to so many times more; one may stop before each of them. -/
def optionally (one : Construction Bool) : Nat → Bool → Construction Bool
  | 0, fork => do
    leave fork
    return false
  | n + 1, fork => do
    let _ ← addState 0
    let next ← one
    leave fork
    addWays 2
    optionally one n next

/-- A part at least so many times. -/
def atLeast (one : Construction Bool) (matchesNothing : Bool) : Nat → Construction Bool
  | 0 =>
    if matchesNothing then do
      let fork ← one
      let _ ← addState 0
      leave fork
      addWays 1
      let _ ← addState 0
      let _ ← addState 0
      addWays 3
      return false
    else do
      let _ ← addState 0
      let fork ← one
      addWays 1
      leave fork
      return true
  | 1 => do
    let fork ← one
    let _ ← addState 0
    leave fork
    addWays 1
    return true
  | n + 2 => do
    let fork ← times one (n + 1)
    let last ← one
    let _ ← addState 0
    leave fork
    leave last
    addWays 1
    return true

/-- A part that may be left out. -/
def option (one : Construction Bool) : Construction Bool := do
  let _ ← addState 0
  let fork ← one
  let _ ← addState 0
  addWays 2
  leave fork
  return false

mutual

/-- Adds the states of a pattern, and tells whether they end in a fork. -/
def ofPattern (reversed : Bool) : Pattern → Construction Bool
  | .empty => addPlain
  | .literal cs => ofLength (literalBytes reversed cs).length
  | .char s => ofSet reversed s
  | .assertion _ => addPlain
  | .repetition part least most _ =>
    let one := ofPattern reversed part
    match least, most with
    | 0, some 1 => option one
    | n, none => atLeast one (part.leastLength?.getD 0 == 0) n
    | n, some m =>
      if n = m then times one n
      else do
        let fork ← times one n
        let _ ← addState 0
        optionally one (m - n) fork
  | .group _ part =>
    if reversed then ofPattern reversed part
    else do
      let _ ← addState 0
      let fork ← ofPattern reversed part
      let _ ← addState 0
      leave fork
      return false
  | .sequence parts => do
    match ← (if reversed then backwardsInSequence parts else inSequence none parts) with
    | some fork => return fork
    | none => addPlain
  | .choice branches =>
    match literalsOf? branches with
    | some literals => do
      let _ ← addState 0
      let bytes := literals.map (literalBytes reversed)
      let tree := ofLiterals ((bytes.map List.length).foldl max 0 + 1) bytes
      fun m => (checked ⟨m.states + tree.states, m.beside + tree.beside⟩).map (false, ·)
    | none => inChoice reversed 0 false branches

/-- Parts one after the other; tells how the last of them ends, if there is one. -/
def inSequence : Option Bool → List Pattern → Construction (Option Bool)
  | before, [] => return before
  | before, p :: ps => do
    let fork ← ofPattern false p
    leave (before.getD false)
    inSequence (some fork) ps

/-- Parts one after the other from the last to the first; tells how the first of them
ends, if there is one. -/
def backwardsInSequence : List Pattern → Construction (Option Bool)
  | [] => return none
  | p :: ps => do
    let before ← backwardsInSequence ps
    let fork ← ofPattern true p
    leave (before.getD false)
    return some fork

/-- The branches of a choice, after some of them, the first of which may have ended in a
fork.  The fork before the branches and the state after them come after the second. -/
def inChoice (reversed : Bool) : Nat → Bool → List Pattern → Construction Bool
  | _, fork, [] => return fork
  | 0, _, p :: ps => do
    let fork ← ofPattern reversed p
    inChoice reversed 1 fork ps
  | 1, first, p :: ps => do
    let fork ← ofPattern reversed p
    let _ ← addState 0
    let _ ← addState 0
    addWays 2
    leave first
    leave fork
    inChoice reversed 2 false ps
  | n + 2, _, p :: ps => do
    let fork ← ofPattern reversed p
    addWays 1
    leave fork
    inChoice reversed (n + 2) false ps

end

mutual

/-- Every match starts where the text does. -/
def startsAtStart : Pattern → Bool
  | .assertion a => a == .textStart
  | .repetition part least _ _ => 0 < least && startsAtStart part
  | .group _ part => startsAtStart part
  | .sequence parts => someStarts parts
  | .choice branches => allStart branches
  | _ => false

/-- Some of the first parts requires the start of the text. -/
def someStarts : List Pattern → Bool
  | [] => false
  | p :: ps => startsAtStart p || (p.isWidthless && someStarts ps)

/-- All branches require the start of the text. -/
def allStart : List Pattern → Bool
  | [] => true
  | p :: ps => startsAtStart p && allStart ps

end

mutual

/-- Every match ends where the text does. -/
def endsAtEnd : Pattern → Bool
  | .assertion a => a == .textEnd
  | .repetition part least _ _ => 0 < least && endsAtEnd part
  | .group _ part => endsAtEnd part
  | .sequence parts => someEnds parts
  | .choice branches => allEnd branches
  | _ => false

/-- Some of the last parts requires the end of the text. -/
def someEnds : List Pattern → Bool
  | [] => false
  | p :: ps => someEnds ps || (endsAtEnd p && ps.all Pattern.isWidthless)

/-- All branches require the end of the text. -/
def allEnd : List Pattern → Bool
  | [] => true
  | p :: ps => endsAtEnd p && allEnd ps

end

/-- The loop that skips what comes before a match, unless a match has to start at once. -/
def skipping (anchored : Bool) (rest : Construction Unit) : Construction Unit := do
  if anchored then
    let _ ← addState 0
    rest
  else
    let _ ← addState 0
    let _ ← addState 0
    let _ ← addState 8
    addWays 1
    rest
    addWays 1

/-- The machine that reads forwards; it tells where groups start and end, the whole match
among them. -/
def forPattern (p : Pattern) : Construction Unit :=
  skipping (startsAtStart p) do
    let _ ← addState 0
    let fork ← ofPattern false p
    let _ ← addState 0
    leave fork
    let _ ← addState 0

/-- The machine that reads backwards. -/
def forPatternReversed (p : Pattern) : Construction Unit :=
  skipping (endsAtEnd p) do
    let fork ← ofPattern true p
    let _ ← addState 0
    leave fork

end Machine

/-- Neither machine for the pattern is too large. -/
def Pattern.fits (p : Pattern) : Bool :=
  ((Machine.forPattern p).run {}).isSome && ((Machine.forPatternReversed p).run {}).isSome

end RecordRules

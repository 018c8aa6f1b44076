import RecordRules.Rule.Builder

/-!
# The events of a rule

The sequence of operations that a rule asks of a builder, with its contexts numbered in
the order in which they are opened.  The recording builder may refuse an operation; the
events then end with the refused one.
-/

namespace RecordRules

/-- One operation of a builder on numbered contexts. -/
inductive Event where
  | opened (context : Nat)
  | conjoined (context sub : Nat)
  | disjoined (context sub : Nat)
  | named (context : Nat) (name : String)
  | called (context : Nat) (name : String) (args : List (Arg Nat))
deriving DecidableEq

/-- What has been recorded: how many contexts are open, and the events, newest first. -/
structure Recording where
  contexts : Nat := 0
  newestFirst : List Event := []

/-- Recording with refusals: an error is the event that was refused. -/
abbrev Recorder := ExceptT Event (StateM Recording)

namespace Recorder

/-- Appends an event, then refuses it if it is to be refused. -/
def note (refuses : Event → Bool) (event : Event) : Recorder Unit := do
  modify fun r => { r with newestFirst := event :: r.newestFirst }
  if refuses event then throw event

/-- The builder that records; a context is its number. -/
def builder (refuses : Event → Bool) : Builder Recorder Nat where
  newContext := do
    let context := (← get).contexts
    modify fun r => { r with contexts := context + 1 }
    note refuses (.opened context)
    return context
  and context sub := do
    note refuses (.conjoined context sub)
    return context
  or context sub := do
    note refuses (.disjoined context sub)
    return context
  ident context name := do
    note refuses (.named context name)
    return context
  call context name args := do
    note refuses (.called context name args)
    return context

end Recorder

/-- The events of a rule up to the first refused one, and its first context or the
refused event. -/
def Expr.events (refuses : Event → Bool) (rule : Expr) : Except Event Nat × List Event :=
  let (outcome, recording) := ((Recorder.builder refuses).build rule).run.run {}
  (outcome, recording.newestFirst.reverse)

end RecordRules

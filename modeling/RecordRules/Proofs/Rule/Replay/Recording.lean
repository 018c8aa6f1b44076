import RecordRules.Proofs.Rule.Calling
import RecordRules.Rule.Event

/-!
# Recording a rule

What a rule asks of a builder can be written down without one: contexts are numbered in the order in
which they are opened, and each of them belongs to a group of operands (`Expr.groups`).  A rule
that is added to a context, with the next number, gives `Expr.callbacks`.

The recording builder notes the callbacks of a rule one by one and stops at the first one that it
refuses (`replay_notes`).  So the events of a rule are its callbacks up to that one
(`events_of_accepted`, `events_of_refused`).
-/

namespace RecordRules

/-- The context that an event opens. -/
def Event.opened? : Event → Option Nat
  | .opened context => some context
  | _ => none

theorem opened_cons (context : Nat) (events : List Event) :
    (Event.opened context :: events).filterMap Event.opened? =
      context :: events.filterMap Event.opened? := rfl

/-! ## Groups and callbacks -/

mutual

/-- The operands of the contexts that a rule opens, in the order in which they are opened. -/
def Expr.groups : Expr → List (List Expr)
  | .and operands => operands :: groupsAll operands
  | .or operands => operands :: groupsAll operands
  | .ident _ => []
  | .call _ args => argGroups args
  | .eq _ value => value.groups

/-- Those of the contexts that rules open, one after the other. -/
def groupsAll : List Expr → List (List Expr)
  | [] => []
  | rule :: rules => rule.groups ++ groupsAll rules

/-- Those of the contexts that an argument opens; a bare name opens none. -/
def ArgExpr.groups : ArgExpr → List (List Expr)
  | .expr (.ident _) => []
  | .expr rule => [rule] :: rule.groups
  | .integer _ | .float _ | .string _ | .boolean _ => []

/-- Those of the contexts that arguments open, one after the other. -/
def argGroups : List ArgExpr → List (List Expr)
  | [] => []
  | arg :: args => arg.groups ++ argGroups args

end

/-- An argument as it is passed, if its context is the next one. -/
def ArgExpr.passed (next : Nat) : ArgExpr → Arg Nat
  | .integer value => .integer value
  | .float value => .float value
  | .string value => .string value
  | .boolean value => .boolean value
  | .expr (.ident name) => .ident name
  | .expr _ => .context next

/-- Arguments as they are passed. -/
def passedAll (next : Nat) : List ArgExpr → List (Arg Nat)
  | [] => []
  | arg :: args => arg.passed next :: passedAll (next + arg.groups.length) args

mutual

/-- What is asked of a builder to add a rule to a context. -/
def Expr.callbacks (context next : Nat) : Expr → List Event
  | .and operands =>
    .opened next :: callbacksAll next (next + 1) operands ++ [.conjoined context next]
  | .or operands =>
    .opened next :: callbacksAll next (next + 1) operands ++ [.disjoined context next]
  | .ident name => [.named context name]
  | .call name args => argCallbacks next args ++ [.called context name (passedAll next args)]
  | .eq name value => value.callbacks next ++ [.called context name [value.passed next]]

/-- What is asked to add rules, one after the other. -/
def callbacksAll (context next : Nat) : List Expr → List Event
  | [] => []
  | rule :: rules =>
    rule.callbacks context next ++ callbacksAll context (next + rule.groups.length) rules

/-- What is asked to build an argument. -/
def ArgExpr.callbacks (next : Nat) : ArgExpr → List Event
  | .expr (.ident _) => []
  | .expr rule => .opened next :: rule.callbacks next (next + 1)
  | .integer _ | .float _ | .string _ | .boolean _ => []

/-- What is asked to build arguments, one after the other. -/
def argCallbacks (next : Nat) : List ArgExpr → List Event
  | [] => []
  | arg :: args => arg.callbacks next ++ argCallbacks (next + arg.groups.length) args

end

/-- The operands of all contexts of a rule; the first one is for the rule itself. -/
def Expr.contexts (rule : Expr) : List (List Expr) :=
  [rule] :: rule.groups

/-- What is asked of a builder to build a rule. -/
def Expr.allCallbacks (rule : Expr) : List Event :=
  .opened 0 :: rule.callbacks 0 1

/-! ## Comparisons and arguments -/

section rules

variable {rule : Expr} (other : ∀ name, rule ≠ .ident name)
include other

theorem groups_rule : (ArgExpr.expr rule).groups = [rule] :: rule.groups := by
  cases rule with
  | ident name => exact absurd rfl (other name)
  | and _ | or _ | call _ _ | eq _ _ => rw [ArgExpr.groups]; exact other

theorem passed_rule (next : Nat) : (ArgExpr.expr rule).passed next = .context next := by
  cases rule with
  | ident name => exact absurd rfl (other name)
  | and _ | or _ | call _ _ | eq _ _ => rw [ArgExpr.passed]; exact other

theorem callbacks_rule (next : Nat) :
    (ArgExpr.expr rule).callbacks next = .opened next :: rule.callbacks next (next + 1) := by
  cases rule with
  | ident name => exact absurd rfl (other name)
  | and _ | or _ | call _ _ | eq _ _ => rw [ArgExpr.callbacks]; exact other

end rules

/-! ## Numbers -/

mutual

/-- The contexts of a rule are opened in the order of their numbers. -/
theorem opened_callbacks (rule : Expr) (context next : Nat) :
    (rule.callbacks context next).filterMap Event.opened? =
      List.range' next rule.groups.length := by
  match rule with
  | .and operands | .or operands =>
    rw [Expr.callbacks, Expr.groups, List.filterMap_append, opened_cons,
      opened_callbacksAll operands]
    exact List.append_nil _
  | .ident name => rfl
  | .call name args =>
    rw [Expr.callbacks, Expr.groups, List.filterMap_append, opened_argCallbacks args]
    exact List.append_nil _
  | .eq name value =>
    rw [Expr.callbacks, Expr.groups, List.filterMap_append, opened_argument value]
    exact List.append_nil _

theorem opened_callbacksAll (rules : List Expr) (context next : Nat) :
    (callbacksAll context next rules).filterMap Event.opened? =
      List.range' next (groupsAll rules).length := by
  match rules with
  | [] => rfl
  | rule :: rules =>
    rw [callbacksAll, groupsAll, List.filterMap_append, opened_callbacks rule,
      opened_callbacksAll rules, List.length_append, List.range'_append_1]

theorem opened_argument (arg : ArgExpr) (next : Nat) :
    (arg.callbacks next).filterMap Event.opened? = List.range' next arg.groups.length := by
  match arg with
  | .integer _ | .float _ | .string _ | .boolean _ => rfl
  | .expr rule =>
    rcases ident_or_other rule with ⟨name, rfl⟩ | other
    · rw [ArgExpr.callbacks, ArgExpr.groups]
      rfl
    · rw [callbacks_rule other, groups_rule other, opened_cons,
        opened_callbacks rule]
      rfl

theorem opened_argCallbacks (args : List ArgExpr) (next : Nat) :
    (argCallbacks next args).filterMap Event.opened? =
      List.range' next (argGroups args).length := by
  match args with
  | [] => rfl
  | arg :: args =>
    rw [argCallbacks, argGroups, List.filterMap_append, opened_argument arg,
      opened_argCallbacks args, List.length_append, List.range'_append_1]

end

namespace Recording

/-- The recording with one more event. -/
def add (r : Recording) (event : Event) : Recording where
  contexts := r.contexts + (event.opened?.toList).length
  newestFirst := event :: r.newestFirst

theorem contexts_add (r : Recording) (event : Event) :
    (r.add event).contexts = r.contexts + (event.opened?.toList).length := rfl

/-- What comes of events that are noted until one is refused. -/
def notes {α : Type} (refuses : Event → Bool) (value : α) (r : Recording) :
    List Event → Except Event α × Recording
  | [] => (.ok value, r)
  | event :: events =>
    if refuses event then (.error event, r.add event)
    else (r.add event).notes refuses value events

theorem notes_of_accepted {α : Type} {refuses : Event → Bool} {events : List Event}
    (accepted : ∀ event ∈ events, refuses event = false) (value : α) (r : Recording) :
    (r.notes refuses value events).1 = .ok value ∧
      (r.notes refuses value events).2.newestFirst = events.reverse ++ r.newestFirst := by
  induction events generalizing r with
  | nil => exact ⟨rfl, rfl⟩
  | cons event events ih =>
    obtain ⟨first, others⟩ := List.forall_mem_cons.mp accepted
    obtain ⟨outcome, recorded⟩ := ih others (r.add event)
    rw [notes, first, List.reverse_cons, List.append_assoc]
    exact ⟨outcome, recorded⟩

theorem notes_of_refused {α : Type} {refuses : Event → Bool} {before after : List Event}
    {event : Event} (accepted : ∀ event ∈ before, refuses event = false)
    (refused : refuses event = true) (value : α) (r : Recording) :
    (r.notes refuses value (before ++ event :: after)).1 = .error event ∧
      (r.notes refuses value (before ++ event :: after)).2.newestFirst =
        event :: before.reverse ++ r.newestFirst := by
  induction before generalizing r with
  | nil =>
    rw [List.nil_append, notes, refused]
    exact ⟨rfl, rfl⟩
  | cons first before ih =>
    obtain ⟨first_accepted, others⟩ := List.forall_mem_cons.mp accepted
    obtain ⟨outcome, recorded⟩ := ih others (r.add first)
    rw [List.cons_append, notes, first_accepted]
    refine ⟨outcome, recorded.trans ?_⟩
    rw [List.reverse_cons, List.cons_append, List.cons_append, List.append_assoc]
    rfl

end Recording

namespace Recorder

variable {α β : Type} {refuses : Event → Bool}

/-- Noting some events and then others is noting all of them. -/
theorem bind_notes {x : Recorder α} {f : α → Recorder β} {events events' : List Event}
    {r : Recording} {a : α} {b : β} (first : x.run.run r = r.notes refuses a events)
    (others : ∀ r' : Recording,
      r'.contexts = r.contexts + (events.filterMap Event.opened?).length →
      (f a).run.run r' = r'.notes refuses b events') :
    (x >>= f).run.run r = r.notes refuses b (events ++ events') := by
  rw [ExceptT.run_bind, StateT.run_bind, first]
  clear first
  induction events generalizing r with
  | nil => exact others r rfl
  | cons event events ih =>
    rw [Recording.notes, List.cons_append, Recording.notes]
    cases refuses event with
    | true => rfl
    | false =>
      refine ih fun r' numbered => others r' ?_
      rw [numbered, Recording.contexts_add, List.filterMap_cons]
      cases event.opened? with
      | none => rw [Option.toList_none, List.length_nil, Nat.add_zero]
      | some context =>
        rw [Option.toList_some, List.length_singleton, List.length_cons]
        omega

theorem note_run (event : Event) (value : α) (r : Recording) :
    ((note refuses event >>= fun _ => pure value : Recorder α)).run.run r =
      (if refuses event then .error event else .ok value,
        { r with newestFirst := event :: r.newestFirst }) := by
  rw [note]
  cases refuses event <;> rfl

theorem newContext_notes (r : Recording) :
    (builder refuses).newContext.run.run r =
      r.notes refuses r.contexts [.opened r.contexts] := by
  refine (note_run (.opened r.contexts) r.contexts { r with contexts := r.contexts + 1 }).trans ?_
  rw [Recording.notes]
  cases refuses (.opened r.contexts) <;> rfl

theorem note_notes {event : Event} (opens : event.opened? = none) (value : α) (r : Recording) :
    ((note refuses event >>= fun _ => pure value : Recorder α)).run.run r =
      r.notes refuses value [event] := by
  rw [note_run, Recording.notes, Recording.add, opens]
  cases refuses event <;> rfl

/-! ## Callbacks -/

/-- What is recorded of a new context, if what fills it is recorded as it should be. -/
theorem filled_notes {fill : Nat → Recorder α} {events : List Event} {a : α} {r : Recording}
    (filled : ∀ r' : Recording, r'.contexts = r.contexts + 1 →
      (fill r.contexts).run.run r' = r'.notes refuses a events) :
    ((builder refuses).newContext >>= fill).run.run r =
      r.notes refuses a (.opened r.contexts :: events) :=
  bind_notes (newContext_notes r) filled

mutual

/-- A recorded rule is its callbacks, with the next number at the time. -/
theorem replay_notes (rule : Expr) (context : Nat) (r : Recording) :
    (rule.replay (builder refuses) context).run.run r =
      r.notes refuses context (rule.callbacks context r.contexts) := by
  match rule with
  | .and operands =>
    rw [Expr.replay, Expr.callbacks, List.cons_append]
    refine filled_notes fun r' numbered => ?_
    rw [← numbered]
    exact bind_notes (replayAll_notes operands r.contexts r') fun r' _ => note_notes rfl context r'
  | .or operands =>
    rw [Expr.replay, Expr.callbacks, List.cons_append]
    refine filled_notes fun r' numbered => ?_
    rw [← numbered]
    exact bind_notes (replayAll_notes operands r.contexts r') fun r' _ => note_notes rfl context r'
  | .ident name => exact note_notes rfl context r
  | .call name args =>
    rw [Expr.replay, Expr.callbacks]
    exact bind_notes (lowerAll_notes args r) fun r' _ => note_notes rfl context r'
  | .eq name value =>
    rw [Expr.replay, Expr.callbacks]
    exact bind_notes (lower_notes value r) fun r' _ => note_notes rfl context r'

theorem replayAll_notes (rules : List Expr) (context : Nat) (r : Recording) :
    (Expr.replayAll (builder refuses) context rules).run.run r =
      r.notes refuses context (callbacksAll context r.contexts rules) := by
  match rules with
  | [] => rfl
  | rule :: rules =>
    rw [Expr.replayAll, callbacksAll]
    refine bind_notes (replay_notes rule context r) fun r' numbered => ?_
    rw [replayAll_notes rules, numbered, opened_callbacks, List.length_range']

theorem lower_notes (arg : ArgExpr) (r : Recording) :
    (arg.lower (builder refuses)).run.run r =
      r.notes refuses (arg.passed r.contexts) (arg.callbacks r.contexts) := by
  match arg with
  | .integer _ | .float _ | .string _ | .boolean _ => rfl
  | .expr rule =>
    rcases ident_or_other rule with ⟨name, rfl⟩ | other
    · rw [ArgExpr.lower, ArgExpr.passed, ArgExpr.callbacks]
      rfl
    · rw [lower_rule _ other, passed_rule other, callbacks_rule other]
      refine filled_notes fun r' numbered => ?_
      rw [← numbered, ← List.append_nil (rule.callbacks _ _)]
      exact bind_notes (replay_notes rule r.contexts r') fun r' _ => rfl

theorem lowerAll_notes (args : List ArgExpr) (r : Recording) :
    (ArgExpr.lowerAll (builder refuses) args).run.run r =
      r.notes refuses (passedAll r.contexts args) (argCallbacks r.contexts args) := by
  match args with
  | [] => rfl
  | arg :: args =>
    rw [ArgExpr.lowerAll, argCallbacks, passedAll]
    refine bind_notes (lower_notes arg r) fun r' numbered => ?_
    rw [opened_argument, List.length_range'] at numbered
    rw [← numbered, ← List.append_nil (argCallbacks _ _)]
    exact bind_notes (lowerAll_notes args r') fun r' _ => rfl

end

end Recorder

/-! ## Events -/

theorem events_eq (refuses : Event → Bool) (rule : Expr) :
    rule.events refuses =
      ((Recording.notes refuses 0 {} rule.allCallbacks).1,
        (Recording.notes refuses 0 {} rule.allCallbacks).2.newestFirst.reverse) := by
  have recorded : ((Recorder.builder refuses).build rule).run.run {} =
      Recording.notes refuses 0 {} rule.allCallbacks := by
    rw [Builder.build, Expr.allCallbacks]
    refine Recorder.filled_notes fun r' numbered => ?_
    rw [Recorder.replay_notes, numbered]
  rw [Expr.events, recorded]

/-- A builder that refuses nothing gets all callbacks and gives back the first context. -/
theorem events_of_accepted {refuses : Event → Bool} {rule : Expr}
    (accepted : ∀ event ∈ rule.allCallbacks, refuses event = false) :
    rule.events refuses = (.ok 0, rule.allCallbacks) := by
  obtain ⟨outcome, recorded⟩ := Recording.notes_of_accepted accepted 0 {}
  rw [events_eq, outcome, recorded, List.append_nil, List.reverse_reverse]

/-- A builder that refuses a callback gets those up to this one. -/
theorem events_of_refused {refuses : Event → Bool} {rule : Expr} {before after : List Event}
    {event : Event} (all : rule.allCallbacks = before ++ event :: after)
    (accepted : ∀ event ∈ before, refuses event = false) (refused : refuses event = true) :
    rule.events refuses = (.error event, before ++ [event]) := by
  obtain ⟨outcome, recorded⟩ := Recording.notes_of_refused accepted refused 0 {}
  rw [events_eq, all, outcome, recorded, List.append_nil, List.reverse_cons, List.reverse_reverse]

end RecordRules

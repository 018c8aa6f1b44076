import RecordRules.Proofs.Rule.Replay.Performing
import RecordRules.Proofs.Rule.Replay.Using

/-!
# Reading a rule off its events

One builder puts the rule together again, with comparisons written as calls (`build_rebuilder`).
What it builds is determined by the events, so these are those of no other rule.

With the uses of each context and the work of any builder this says how a rule is encoded by its
replay (`replay_linear`).
-/

namespace RecordRules

open Event

/-! ## Putting a rule together again -/

/-- An argument as it stands in a rule, if contexts are the rules that they have been given. -/
def Arg.rebuilt : Arg (List Expr) → ArgExpr
  | .integer value => .integer value
  | .float value => .float value
  | .string value => .string value
  | .boolean value => .boolean value
  | .ident name => .expr (.ident name)
  | .context rules => .expr (rules.headD default)

/-- The builder that puts rules together. -/
def rebuilder : Builder Id (List Expr) where
  newContext := []
  and rules operands := rules ++ [.and operands]
  or rules operands := rules ++ [.or operands]
  ident rules name := rules ++ [.ident name]
  call rules name args := rules ++ [.call name (args.map Arg.rebuilt)]

mutual

theorem replay_rebuilder (rule : Expr) (rules : List Expr) :
    rule.replay rebuilder rules = rules ++ [rule.called] := by
  match rule with
  | .and operands =>
    rw [Expr.replay, Expr.called]
    exact congrArg (rules ++ [.and ·]) (replayAll_rebuilder operands [])
  | .or operands =>
    rw [Expr.replay, Expr.called]
    exact congrArg (rules ++ [.or ·]) (replayAll_rebuilder operands [])
  | .ident name => rfl
  | .call name args =>
    rw [Expr.replay, Expr.called]
    exact congrArg (rules ++ [.call name ·]) (lowerAll_rebuilder args)
  | .eq name value =>
    rw [Expr.replay, Expr.called]
    exact congrArg (rules ++ [.call name [·]]) (lower_rebuilder value)

theorem replayAll_rebuilder (operands rules : List Expr) :
    Expr.replayAll rebuilder rules operands = rules ++ calledAll operands := by
  match operands with
  | [] => exact (List.append_nil rules).symm
  | operand :: operands =>
    rw [Expr.replayAll, calledAll, replay_rebuilder operand]
    exact (replayAll_rebuilder operands _).trans (List.append_assoc rules _ _)

theorem lower_rebuilder (arg : ArgExpr) : Arg.rebuilt (arg.lower rebuilder) = arg.called := by
  match arg with
  | .integer _ | .float _ | .string _ | .boolean _ => rfl
  | .expr rule =>
    rcases ident_or_other rule with ⟨name, rfl⟩ | other
    · rw [ArgExpr.lower, ArgExpr.called, Expr.called]
      rfl
    · rw [lower_rule _ other, ArgExpr.called]
      exact congrArg (fun rules => ArgExpr.expr (List.headD rules default))
        (replay_rebuilder rule [])

theorem lowerAll_rebuilder (args : List ArgExpr) :
    List.map Arg.rebuilt (ArgExpr.lowerAll rebuilder args) = calledArgs args := by
  match args with
  | [] => rfl
  | arg :: args =>
    rw [ArgExpr.lowerAll, calledArgs, ← lower_rebuilder arg, ← lowerAll_rebuilder args]
    rfl

end

theorem build_rebuilder (rule : Expr) : rebuilder.build rule = [rule.called] :=
  replay_rebuilder rule []

/-! ## The events of a rule -/

theorem events_accepting (rule : Expr) :
    rule.events (fun _ => false) = (.ok 0, rule.allCallbacks) :=
  events_of_accepted fun _ _ => rfl

theorem events_called (refuses : Event → Bool) (rule : Expr) :
    rule.called.events refuses = rule.events refuses := by
  have plain : (Recorder.builder refuses).Plain := fun _ _ _ => rfl
  simp only [Expr.events, Builder.build, replay_called plain rule]

/-- Rules have the same callbacks if and only if they are the same with all comparisons written as
calls. -/
theorem allCallbacks_eq_iff {rule other : Expr} :
    other.allCallbacks = rule.allCallbacks ↔ other.called = rule.called := by
  constructor
  · intro same
    have plain : rebuilder.Plain := fun _ _ _ => rfl
    have built := foldlM_allCallbacks plain rule
    rw [← same, foldlM_allCallbacks plain other, build_rebuilder, build_rebuilder] at built
    have first : some [other.called] = some [rule.called] :=
      congrFun (Option.some.inj built) 0
    exact List.head_eq_of_cons_eq (Option.some.inj first)
  · intro same
    have events : other.events (fun _ => false) = rule.events (fun _ => false) := by
      rw [← events_called, same, events_called]
    rw [events_accepting, events_accepting] at events
    exact congrArg Prod.snd events

/-! ## Refusals -/

section Refusals

variable {α β ε σ : Type} {f : β → α → OptionT (ExceptT ε (StateM σ)) β}

/-- If a loop fails, then in some round, after rounds that did not. -/
theorem exists_failed_round {xs : List α} {y : β} {s s' : σ} {e : ε}
    (failed : (xs.foldlM f y).run.run.run s = (.error e, s')) :
    ∃ before x after z t, xs = before ++ x :: after ∧
      (before.foldlM f y).run.run.run s = (.ok (some z), t) ∧
      (f z x).run.run.run t = (.error e, s') := by
  induction xs generalizing y s with
  | nil => cases failed
  | cons x xs ih =>
    rw [List.foldlM_cons, OptionT.run_bind, Option.elimM, ExceptT.run_bind, StateT.run_bind]
      at failed
    rcases round : (f y x).run.run.run s with ⟨_ | _ | z, t⟩
    · rw [round] at failed
      cases failed
      exact ⟨[], x, xs, y, s, rfl, rfl, round⟩
    · rw [round] at failed
      cases failed
    · rw [round] at failed
      obtain ⟨before, x', after, z', t', rfl, done, fails⟩ := ih failed
      refine ⟨x :: before, x', after, z', t', rfl, ?_, fails⟩
      rw [List.foldlM_cons, OptionT.run_bind, Option.elimM, ExceptT.run_bind, StateT.run_bind,
        round]
      exact done

end Refusals

/-- If a builder refuses a rule, then in some callback, after it has done those before. -/
theorem exists_refused_callback {ε σ κ : Type} {b : Builder (ExceptT ε (StateM σ)) κ}
    (plain : b.Plain) {rule : Expr} {s s' : σ} {e : ε}
    (refused : (b.build rule).run.run s = (.error e, s')) :
    ∃ before event after store t, rule.allCallbacks = before ++ event :: after ∧
      (before.foldlM (Event.perform b) Store.empty).run.run.run s = (.ok (some store), t) ∧
      (event.perform b store).run.run.run t = (.error e, s') := by
  refine exists_failed_round ?_
  rw [foldlM_allCallbacks plain rule, ExceptT.run_map, StateT.run_map, refused]
  rfl

/-! ## Replays -/

/-- The events use the contexts of a rule linearly: contexts are numbered as they are opened, each
gets one event for each operand of its group, and each but the first is then handed over to another
one, for good. -/
structure Expr.UsedLinearly (rule : Expr) (events : List Event) : Prop where
  opened : events.filterMap Event.opened? = List.range rule.contexts.length
  first : FilledBy 0 [rule] (uses events 0)
  others : ∀ context group, 0 < context → rule.contexts[context]? = some group →
    HandedOver context group (uses events context)

theorem usedLinearly (rule : Expr) : rule.UsedLinearly rule.allCallbacks where
  opened := by
    rw [Expr.allCallbacks, opened_cons, opened_callbacks, Expr.contexts, List.range_eq_range']
    rfl
  first := filled_rule rule 0
  others _ _ later is := handedOver_allCallbacks later is

/-- The replay of a rule.  A builder that records and refuses nothing gives back the first context,
and has events that use all contexts linearly.  Any builder that does not treat comparisons
differently does just these events, each with the contexts that are there at the time, and what it
builds is the first context.  Rules with the same events are the same once comparisons are written
as calls.  A builder that refuses an event has got the events up to this one: the recorder, which
then has them as its events, and any other. -/
theorem replay_linear (rule : Expr) :
    ∃ events, rule.events (fun _ => false) = (.ok 0, events) ∧
      rule.UsedLinearly events ∧
      (∀ (m : Type → Type) [Monad m] [LawfulMonad m] (κ : Type) (b : Builder m κ), b.Plain →
        (events.foldlM (Event.perform b) Store.empty).run =
          (fun built => some (Store.empty.put 0 built)) <$> b.build rule) ∧
      (∀ other : Expr, other.events (fun _ => false) = (.ok 0, events) ↔
        other.called = rule.called) ∧
      (∀ refuses, (∀ event ∈ events, refuses event = false) →
        rule.events refuses = (.ok 0, events)) ∧
      (∀ refuses before event after, events = before ++ event :: after →
        (∀ event ∈ before, refuses event = false) → refuses event = true →
        rule.events refuses = (.error event, before ++ [event])) ∧
      ∀ (ε σ κ : Type) (b : Builder (ExceptT ε (StateM σ)) κ), b.Plain → ∀ s e s',
        (b.build rule).run.run s = (.error e, s') →
        ∃ before event after store t, events = before ++ event :: after ∧
          (before.foldlM (Event.perform b) Store.empty).run.run.run s = (.ok (some store), t) ∧
          (event.perform b store).run.run.run t = (.error e, s') := by
  refine ⟨rule.allCallbacks, events_accepting rule, usedLinearly rule,
    fun m _ _ κ b plain => foldlM_allCallbacks plain rule, fun other => ?_,
    fun refuses accepted => events_of_accepted accepted,
    fun refuses before event after all accepted refused =>
      events_of_refused all accepted refused,
    fun ε σ κ b plain s e s' refused => exists_refused_callback plain refused⟩
  rw [events_accepting, ← allCallbacks_eq_iff, Prod.mk.injEq, and_iff_right rfl]

example : (Expr.call "array" [.expr (.and [.ident "a", .eq "b" (.integer 1)])]).events
    (fun _ => false) = (.ok 0, [.opened 0, .opened 1, .opened 2, .named 2 "a",
      .called 2 "b" [.integer 1], .conjoined 1 2, .called 0 "array" [.context 1]]) := by
  rfl

end RecordRules

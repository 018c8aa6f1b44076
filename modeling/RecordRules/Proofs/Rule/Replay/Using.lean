import Mathlib.Data.List.Forall2
import Mathlib.Data.List.Nodup
import RecordRules.Proofs.Rule.Replay.Recording

/-!
# Contexts are used linearly

The callbacks of a rule touch no context but the one that they extend and those that they open
(`uses_callbacks_of_outside`).  So the uses of each context can be read off the part of the rule
that opens it: it is opened, extended once for each operand of its group, and handed over by what
comes next (`handedOver_callbacks`).
-/

namespace RecordRules

/-! ## Uses -/

/-- The context of an argument. -/
def Arg.context? {κ : Type} : Arg κ → Option κ
  | .context built => some built
  | _ => none

namespace Event

/-- The context that an event extends. -/
def extended? : Event → Option Nat
  | .opened _ => none
  | .conjoined context _ | .disjoined context _ | .named context _ | .called context _ _ =>
    some context

/-- The contexts that an event hands over. -/
def handed : Event → List Nat
  | .opened _ | .named _ _ => []
  | .conjoined _ sub | .disjoined _ sub => [sub]
  | .called _ _ args => args.filterMap Arg.context?

/-- The event opens, extends or hands over the context. -/
def involves (context : Nat) (event : Event) : Bool :=
  event.opened? = some context || event.extended? = some context || context ∈ event.handed

/-- The events that involve a context. -/
def uses (events : List Event) (context : Nat) : List Event :=
  events.filter (involves context)

/-- The event is the callback for an operand. -/
def Answers : Event → Expr → Prop
  | .conjoined _ _, .and _ | .disjoined _ _, .or _ => True
  | .named _ name, .ident name' => name = name'
  | .called _ name args, .call name' args' => name = name' ∧ args.length = args'.length
  | .called _ name args, .eq name' _ => name = name' ∧ args.length = 1
  | _, _ => False

/-- The event extends a context by what an operand asks for, and does not hand it over. -/
structure ExtendsFor (context : Nat) (event : Event) (operand : Expr) : Prop where
  extended : event.extended? = some context
  kept : context ∉ event.handed
  answers : event.Answers operand

/-- The context is opened and then extended once for each operand of a group, in order. -/
def FilledBy (context : Nat) (group : List Expr) (uses : List Event) : Prop :=
  ∃ extensions, uses = .opened context :: extensions ∧
    List.Forall₂ (ExtendsFor context) extensions group

/-- The context is opened, extended once for each operand of a group, in order, and then handed over
once, to another context. -/
def HandedOver (context : Nat) (group : List Expr) (uses : List Event) : Prop :=
  ∃ filling hand, uses = filling ++ [hand] ∧ FilledBy context group filling ∧
    hand.extended? ≠ some context ∧ hand.handed.count context = 1

theorem uses_append (events events' : List Event) (context : Nat) :
    uses (events ++ events') context = uses events context ++ uses events' context :=
  List.filter_append events events'

theorem uses_cons (event : Event) (events : List Event) (context : Nat) :
    uses (event :: events) context = uses [event] context ++ uses events context :=
  uses_append [event] events context

theorem uses_opened_self (context : Nat) : uses [.opened context] context = [.opened context] := by
  simp [uses, involves, opened?]

theorem uses_opened_of_ne {context context' : Nat} (differs : context ≠ context') :
    uses [.opened context'] context = [] := by
  simp [uses, involves, opened?, extended?, handed, differs.symm]

theorem uses_singleton {event : Event} {context : Nat} (involved : event.involves context = true) :
    uses [event] context = [event] := by
  rw [uses, List.filter_singleton, involved]
  rfl

theorem uses_extended {event : Event} {context : Nat} (extended : event.extended? = some context) :
    uses [event] context = [event] :=
  uses_singleton (by simp [involves, extended])

/-- An event that extends one context leaves those alone that it does not hand over. -/
theorem uses_of_extended {event : Event} {context context' : Nat}
    (extended : event.extended? = some context') (differs : context ≠ context')
    (kept : context ∉ event.handed) : uses [event] context = [] := by
  have unopened : event.opened? = none := by
    cases event with
    | opened _ => cases extended
    | conjoined _ _ | disjoined _ _ | named _ _ | called _ _ _ => rfl
  simp [uses, involves, unopened, extended, differs.symm, kept]

end Event

open Event

/-! ## What is not used -/

/-- A number is not one of the `count` numbers from `next` on. -/
def Outside (next count number : Nat) : Prop :=
  number < next ∨ next + count ≤ number

theorem Outside.of_cons {next number : Nat} {first : List Expr} {groups : List (List Expr)}
    (outside : Outside next (first :: groups).length number) :
    number ≠ next ∧ Outside (next + 1) groups.length number := by
  rw [Outside, List.length_cons] at *
  omega

theorem Outside.of_append {next number : Nat} {groups groups' : List (List Expr)}
    (outside : Outside next (groups ++ groups').length number) :
    Outside next groups.length number ∧ Outside (next + groups.length) groups'.length number := by
  rw [Outside, List.length_append] at outside
  rw [Outside, Outside]
  omega

/-- An argument has a context if it is a rule that is not a bare name. -/
theorem passed_cases (arg : ArgExpr) (next : Nat) :
    (arg.passed next).context? = none ∧ arg.groups = [] ∧ arg.callbacks next = [] ∨
      ∃ rule, (arg.passed next).context? = some next ∧ arg.groups = [rule] :: rule.groups ∧
        arg.callbacks next = .opened next :: rule.callbacks next (next + 1) := by
  cases arg with
  | integer _ | float _ | string _ | boolean _ => exact .inl ⟨rfl, rfl, rfl⟩
  | expr rule =>
    rcases ident_or_other rule with ⟨name, rfl⟩ | other
    · rw [ArgExpr.passed, ArgExpr.groups, ArgExpr.callbacks]
      exact .inl ⟨rfl, rfl, rfl⟩
    · rw [passed_rule other, groups_rule other, callbacks_rule other]
      exact .inr ⟨rule, rfl, rfl, rfl⟩

/-- The contexts of arguments are new. -/
theorem not_mem_passed_of_outside {args : List ArgExpr} {next context : Nat}
    (outside : Outside next (argGroups args).length context) :
    context ∉ (passedAll next args).filterMap Arg.context? := by
  induction args generalizing next with
  | nil => exact List.not_mem_nil
  | cons arg args ih =>
    rw [argGroups] at outside
    obtain ⟨first, others⟩ := outside.of_append
    rw [passedAll, List.filterMap_cons]
    rcases passed_cases arg next with ⟨none, -, -⟩ | ⟨rule, some, groups, -⟩
    · rw [none]
      exact ih others
    · rw [groups] at first
      rw [some, List.mem_cons, not_or]
      exact ⟨first.of_cons.1, ih others⟩

theorem not_mem_argument_of_outside {arg : ArgExpr} {next context : Nat}
    (outside : Outside next arg.groups.length context) :
    context ∉ [arg.passed next].filterMap Arg.context? := by
  have outside : Outside next (argGroups [arg]).length context := by
    rwa [argGroups, argGroups, List.append_nil]
  exact not_mem_passed_of_outside outside

mutual

/-- The callbacks of a rule touch no context but the one that they extend and new ones. -/
theorem uses_callbacks_of_outside (rule : Expr) {context next other : Nat}
    (differs : other ≠ context) (outside : Outside next rule.groups.length other) :
    uses (rule.callbacks context next) other = [] := by
  match rule with
  | .and operands | .or operands =>
    rw [Expr.groups] at outside
    obtain ⟨old, outside⟩ := outside.of_cons
    rw [Expr.callbacks, List.cons_append, uses_cons, uses_opened_of_ne old, uses_append,
      uses_callbacksAll_of_outside operands old outside]
    exact uses_of_extended rfl differs (by simpa [handed] using old)
  | .ident name => exact uses_of_extended rfl differs List.not_mem_nil
  | .call name args =>
    rw [Expr.groups] at outside
    rw [Expr.callbacks, uses_append, uses_argCallbacks_of_outside args outside]
    exact uses_of_extended rfl differs (not_mem_passed_of_outside outside)
  | .eq name value =>
    rw [Expr.groups] at outside
    rw [Expr.callbacks, uses_append, uses_argument_of_outside value outside]
    exact uses_of_extended rfl differs (not_mem_argument_of_outside outside)

theorem uses_callbacksAll_of_outside (rules : List Expr) {context next other : Nat}
    (differs : other ≠ context) (outside : Outside next (groupsAll rules).length other) :
    uses (callbacksAll context next rules) other = [] := by
  match rules with
  | [] => rfl
  | rule :: rules =>
    rw [groupsAll] at outside
    obtain ⟨first, others⟩ := outside.of_append
    rw [callbacksAll, uses_append, uses_callbacks_of_outside rule differs first,
      uses_callbacksAll_of_outside rules differs others]
    rfl

theorem uses_argument_of_outside (arg : ArgExpr) {next other : Nat}
    (outside : Outside next arg.groups.length other) :
    uses (arg.callbacks next) other = [] := by
  match arg with
  | .integer _ | .float _ | .string _ | .boolean _ => rfl
  | .expr rule =>
    rcases ident_or_other rule with ⟨name, rfl⟩ | not_ident
    · rw [ArgExpr.callbacks]
      rfl
    · rw [groups_rule not_ident] at outside
      obtain ⟨old, outside⟩ := outside.of_cons
      rw [callbacks_rule not_ident, uses_cons, uses_opened_of_ne old,
        uses_callbacks_of_outside rule old outside]
      rfl

theorem uses_argCallbacks_of_outside (args : List ArgExpr) {next other : Nat}
    (outside : Outside next (argGroups args).length other) :
    uses (argCallbacks next args) other = [] := by
  match args with
  | [] => rfl
  | arg :: args =>
    rw [argGroups] at outside
    obtain ⟨first, others⟩ := outside.of_append
    rw [argCallbacks, uses_append, uses_argument_of_outside arg first,
      uses_argCallbacks_of_outside args others]
    rfl

end

/-! ## What is extended -/

theorem length_passedAll (args : List ArgExpr) (next : Nat) :
    (passedAll next args).length = args.length := by
  induction args generalizing next with
  | nil => rfl
  | cons arg args ih => rw [passedAll, List.length_cons, ih, List.length_cons]

/-- A rule extends its context by one callback, the last one. -/
theorem extends_callbacks (rule : Expr) {context next : Nat} (old : context < next) :
    ∃ event, uses (rule.callbacks context next) context = [event] ∧
      ExtendsFor context event rule := by
  have differs : context ≠ next := Nat.ne_of_lt old
  have kept : context ∉ [next] := by simpa using differs
  cases rule with
  | and operands | or operands =>
    rw [Expr.callbacks, List.cons_append, uses_cons, uses_opened_of_ne differs, uses_append,
      uses_callbacksAll_of_outside operands differs (.inl (by omega))]
    exact ⟨_, uses_extended rfl, rfl, kept, trivial⟩
  | ident name =>
    exact ⟨_, uses_extended rfl, rfl, List.not_mem_nil, rfl⟩
  | call name args =>
    rw [Expr.callbacks, uses_append, uses_argCallbacks_of_outside args (.inl old)]
    exact ⟨_, uses_extended rfl, rfl, not_mem_passed_of_outside (.inl old), rfl,
      length_passedAll args next⟩
  | eq name value =>
    rw [Expr.callbacks, uses_append, uses_argument_of_outside value (.inl old)]
    exact ⟨_, uses_extended rfl, rfl, not_mem_argument_of_outside (.inl old), rfl, rfl⟩

/-- Rules extend their context by one callback each. -/
theorem extends_callbacksAll (rules : List Expr) {context next : Nat} (old : context < next) :
    List.Forall₂ (ExtendsFor context) (uses (callbacksAll context next rules) context) rules := by
  induction rules generalizing next with
  | nil => exact .nil
  | cons rule rules ih =>
    obtain ⟨event, used, extends_⟩ := extends_callbacks rule old
    rw [callbacksAll, uses_append, used]
    exact .cons extends_ (ih (by omega))

/-! ## What is handed over -/

/-- A context that is new is handed over by what follows, or has been handed over before. -/
theorem handedOver_append {events : List Event} {hand : Event} {context new : Nat}
    {group : List Expr} (extended : hand.extended? = some context) (differs : new ≠ context)
    (used : hand.handed.count new = 1 ∧ FilledBy new group (uses events new) ∨
      new ∉ hand.handed ∧ HandedOver new group (uses events new)) :
    HandedOver new group (uses (events ++ [hand]) new) := by
  rw [uses_append]
  rcases used with ⟨once, filled⟩ | ⟨kept, handed⟩
  · have involved : hand.involves new = true := by
      have mem : new ∈ hand.handed := List.count_pos_iff.mp (by omega)
      simp [involves, mem]
    rw [uses_singleton involved]
    exact ⟨_, hand, rfl, filled, by simpa [extended] using differs.symm, once⟩
  · rw [uses_of_extended extended differs kept, List.append_nil]
    exact handed

/-- The context of a group is filled by its operands. -/
theorem filled_group (operands : List Expr) (next : Nat) :
    FilledBy next operands (uses (.opened next :: callbacksAll next (next + 1) operands) next) := by
  rw [uses_cons, uses_opened_self]
  exact ⟨_, rfl, extends_callbacksAll operands (Nat.lt_succ_self next)⟩

theorem filled_rule (rule : Expr) (next : Nat) :
    FilledBy next [rule] (uses (.opened next :: rule.callbacks next (next + 1)) next) := by
  have filled := filled_group [rule] next
  rwa [callbacksAll, callbacksAll, List.append_nil] at filled

/-- A context belongs to a group, if the contexts of some groups are numbered from `next` on. -/
def Belongs (next : Nat) (groups : List (List Expr)) (context : Nat) (group : List Expr) : Prop :=
  next ≤ context ∧ groups[context - next]? = some group

theorem Belongs.of_cons {next context : Nat} {first group : List Expr} {groups : List (List Expr)}
    (belongs : Belongs next (first :: groups) context group) :
    context = next ∧ group = first ∨ context ≠ next ∧ Belongs (next + 1) groups context group := by
  obtain ⟨above, is⟩ := belongs
  rcases Nat.eq_or_lt_of_le above with rfl | above
  · rw [Nat.sub_self] at is
    exact .inl ⟨rfl, (Option.some.inj is).symm⟩
  · rw [show context - next = context - (next + 1) + 1 by omega, List.getElem?_cons_succ] at is
    exact .inr ⟨by omega, above, is⟩

theorem Belongs.of_append {next context : Nat} {group : List Expr}
    {groups groups' : List (List Expr)} (belongs : Belongs next (groups ++ groups') context group) :
    Belongs next groups context group ∧ Outside (next + groups.length) groups'.length context ∨
      Belongs (next + groups.length) groups' context group ∧
        Outside next groups.length context := by
  obtain ⟨above, is⟩ := belongs
  rw [List.getElem?_append] at is
  split at is
  case isTrue below => exact .inl ⟨⟨above, is⟩, .inl (by omega)⟩
  case isFalse beyond =>
    rw [Nat.sub_sub] at is
    exact .inr ⟨⟨by omega, is⟩, .inr (by omega)⟩

theorem not_belongs_nil {next context : Nat} {group : List Expr} :
    ¬ Belongs next [] context group := fun belongs => by cases belongs.2

mutual

/-- A context that a rule opens is handed over among the callbacks of the rule. -/
theorem handedOver_callbacks (rule : Expr) {context next new : Nat} {group : List Expr}
    (old : context < next) (belongs : Belongs next rule.groups new group) :
    HandedOver new group (uses (rule.callbacks context next) new) := by
  have differs : new ≠ context := Nat.ne_of_gt (Nat.lt_of_lt_of_le old belongs.1)
  match rule with
  | .and operands | .or operands =>
    rw [Expr.groups] at belongs
    rw [Expr.callbacks]
    refine handedOver_append rfl differs ?_
    rcases belongs.of_cons with ⟨rfl, rfl⟩ | ⟨later, belongs⟩
    · exact .inl ⟨List.count_singleton_self, filled_group group new⟩
    · have handed := handedOver_callbacksAll operands (Nat.lt_succ_self next) belongs
      rw [uses_cons, uses_opened_of_ne later]
      exact .inr ⟨by simpa [Event.handed] using later, handed⟩
  | .ident name => exact absurd belongs not_belongs_nil
  | .call name args =>
    rw [Expr.groups] at belongs
    rw [Expr.callbacks]
    exact handedOver_append rfl differs (used_argCallbacks args belongs)
  | .eq name value =>
    rw [Expr.groups] at belongs
    rw [Expr.callbacks]
    exact handedOver_append rfl differs (used_argument value belongs)

theorem handedOver_callbacksAll (rules : List Expr) {context next new : Nat} {group : List Expr}
    (old : context < next) (belongs : Belongs next (groupsAll rules) new group) :
    HandedOver new group (uses (callbacksAll context next rules) new) := by
  have differs : new ≠ context := Nat.ne_of_gt (Nat.lt_of_lt_of_le old belongs.1)
  match rules with
  | [] => exact absurd belongs not_belongs_nil
  | rule :: rules =>
    rw [groupsAll] at belongs
    rw [callbacksAll, uses_append]
    rcases belongs.of_append with ⟨belongs, outside⟩ | ⟨belongs, outside⟩
    · rw [uses_callbacksAll_of_outside rules differs outside, List.append_nil]
      exact handedOver_callbacks rule old belongs
    · rw [uses_callbacks_of_outside rule differs outside]
      exact handedOver_callbacksAll rules (by omega) belongs

theorem used_argument (arg : ArgExpr) {next new : Nat} {group : List Expr}
    (belongs : Belongs next arg.groups new group) :
    ([arg.passed next].filterMap Arg.context?).count new = 1 ∧
        FilledBy new group (uses (arg.callbacks next) new) ∨
      new ∉ [arg.passed next].filterMap Arg.context? ∧
        HandedOver new group (uses (arg.callbacks next) new) := by
  match arg with
  | .integer _ | .float _ | .string _ | .boolean _ => exact absurd belongs not_belongs_nil
  | .expr rule =>
    rcases ident_or_other rule with ⟨name, rfl⟩ | not_ident
    · rw [ArgExpr.groups] at belongs
      exact absurd belongs not_belongs_nil
    · rw [groups_rule not_ident] at belongs
      rw [callbacks_rule not_ident, passed_rule not_ident]
      rcases belongs.of_cons with ⟨rfl, rfl⟩ | ⟨later, belongs⟩
      · exact .inl ⟨List.count_singleton_self, filled_rule rule new⟩
      · rw [uses_cons, uses_opened_of_ne later]
        refine .inr ⟨?_, handedOver_callbacks rule (Nat.lt_succ_self next) belongs⟩
        simpa [Arg.context?] using later

/-- A context that arguments open is one of theirs, and filled, or has been handed over. -/
theorem used_argCallbacks (args : List ArgExpr) {next new : Nat} {group : List Expr}
    (belongs : Belongs next (argGroups args) new group) :
    ((passedAll next args).filterMap Arg.context?).count new = 1 ∧
        FilledBy new group (uses (argCallbacks next args) new) ∨
      new ∉ (passedAll next args).filterMap Arg.context? ∧
        HandedOver new group (uses (argCallbacks next args) new) := by
  match args with
  | [] => exact absurd belongs not_belongs_nil
  | arg :: args =>
    rw [argGroups] at belongs
    rw [argCallbacks, uses_append, passedAll, ← List.singleton_append, List.filterMap_append,
      List.count_append, List.mem_append]
    rcases belongs.of_append with ⟨belongs, outside⟩ | ⟨belongs, outside⟩
    · have others := not_mem_passed_of_outside outside
      rw [uses_argCallbacks_of_outside args outside, List.append_nil,
        List.count_eq_zero.mpr others, Nat.add_zero]
      simpa only [others, or_false] using used_argument arg belongs
    · have first := not_mem_argument_of_outside outside
      rw [uses_argument_of_outside arg outside, List.nil_append, List.count_eq_zero.mpr first,
        Nat.zero_add]
      simpa only [first, false_or] using used_argCallbacks args belongs

end

/-- Each context of a rule but the first is handed over among all callbacks of the rule. -/
theorem handedOver_allCallbacks {rule : Expr} {context : Nat} {group : List Expr}
    (later : 0 < context) (is : rule.contexts[context]? = some group) :
    HandedOver context group (uses rule.allCallbacks context) := by
  have belongs : Belongs 0 rule.contexts context group := ⟨Nat.zero_le context, is⟩
  rcases belongs.of_cons with ⟨rfl, -⟩ | ⟨differs, belongs⟩
  · cases later
  · rw [Expr.allCallbacks, uses_cons, uses_opened_of_ne differs]
    exact handedOver_callbacks rule Nat.one_pos belongs

end RecordRules

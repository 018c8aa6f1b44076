import RecordRules.Proofs.Rule.Replay.Recording

/-!
# Performing the callbacks of a rule

Any builder can do the callbacks of a rule one after the other, if it is given the contexts that the
numbers stand for.  A context that is handed over is gone, and the builder still never lacks one:
what it has done in the end is what it builds of the rule (`foldlM_allCallbacks`).
-/

namespace RecordRules

/-! ## Contexts that are there -/

/-- The contexts that are there, by their numbers. -/
abbrev Store (κ : Type) : Type :=
  Nat → Option κ

namespace Store

variable {κ : Type}

/-- No context is there. -/
def empty : Store κ :=
  fun _ => none

/-- The store with a context at a number. -/
def put (store : Store κ) (number : Nat) (built : κ) : Store κ :=
  fun other => if other = number then some built else store other

/-- The store without the context at a number. -/
def without (store : Store κ) (number : Nat) : Store κ :=
  fun other => if other = number then none else store other

/-- No number from `next` on stands for a context. -/
def FreeFrom (store : Store κ) (next : Nat) : Prop :=
  ∀ number, next ≤ number → store number = none

variable {store : Store κ} {number next : Nat}

theorem put_self (store : Store κ) (number : Nat) (built : κ) :
    store.put number built number = some built := if_pos rfl

theorem put_of_ne {other : Nat} (differs : other ≠ number) (built : κ) :
    store.put number built other = store other := if_neg differs

theorem put_put (store : Store κ) (number : Nat) (built : κ) :
    (store.put number built).put number = store.put number := by
  funext built' other
  rw [put, put, put]
  split <;> rfl

theorem put_holding {built : κ} (holds : store number = some built) :
    store.put number built = store := by
  funext other
  rw [put]
  split
  case isTrue same => rw [same, holds]
  case isFalse => rfl

theorem without_put (free : store number = none) (built : κ) :
    (store.put number built).without number = store := by
  funext other
  rw [without, put]
  split
  case isTrue same => rw [same, free]
  case isFalse => rfl

theorem FreeFrom.put_old (free : store.FreeFrom next) (old : number < next) (built : κ) :
    (store.put number built).FreeFrom next := by
  intro other above
  rw [put_of_ne (by omega)]
  exact free other above

theorem FreeFrom.put (free : store.FreeFrom next) (built : κ) :
    (store.put next built).FreeFrom (next + 1) := by
  intro number above
  rw [put_of_ne (by omega)]
  exact free number (by omega)

theorem FreeFrom.mono (free : store.FreeFrom next) {later : Nat} (above : next ≤ later) :
    store.FreeFrom later :=
  fun number beyond => free number (Nat.le_trans above beyond)

end Store

theorem elim_bind {α β γ : Type} (x : Option α) (f : α → Option β) (none : γ) (g : β → γ) :
    (x.bind f).elim none g = x.elim none fun a => (f a).elim none g := by
  cases x <;> rfl

/-! ## Callbacks of a builder -/

/-- An argument that is passed, with its context out of the store. -/
def Arg.take {κ : Type} (store : Store κ) : Arg Nat → Option (Arg κ × Store κ)
  | .integer value => some (.integer value, store)
  | .float value => some (.float value, store)
  | .string value => some (.string value, store)
  | .boolean value => some (.boolean value, store)
  | .ident name => some (.ident name, store)
  | .context number => (store number).map fun built => (.context built, store.without number)

/-- Arguments that are passed, with their contexts out of the store. -/
def takeAll {κ : Type} (store : Store κ) : List (Arg Nat) → Option (List (Arg κ) × Store κ)
  | [] => some ([], store)
  | arg :: args =>
    (takeAll store args).bind fun others =>
      (arg.take others.2).map fun first => (first.1 :: others.1, first.2)

variable {m : Type → Type} [Monad m] {κ : Type}

/-- One callback of a builder.  It fails if a context is not there. -/
def Event.perform (b : Builder m κ) (store : Store κ) : Event → OptionT m (Store κ)
  | .opened context => store.put context <$> OptionT.lift b.newContext
  | .conjoined context sub =>
    (store sub).elim failure fun part => (store context).elim failure fun into =>
      (store.without sub).put context <$> OptionT.lift (b.and into part)
  | .disjoined context sub =>
    (store sub).elim failure fun part => (store context).elim failure fun into =>
      (store.without sub).put context <$> OptionT.lift (b.or into part)
  | .named context name => (store context).elim failure fun into =>
    store.put context <$> OptionT.lift (b.ident into name)
  | .called context name args => (takeAll store args).elim failure fun taken =>
    (taken.2 context).elim failure fun into =>
      taken.2.put context <$> OptionT.lift (b.call into name taken.1)

variable [LawfulMonad m] {b : Builder m κ}

/-- A group puts what the operands build into its context, and hands that over. -/
theorem foldlM_group {store : Store κ} {context next : Nat} {operands : List Expr} {hand : Event}
    {fold : κ → κ → m κ} {into : κ}
    (free : store.FreeFrom next) (old : context < next) (holds : store context = some into)
    (folds : ∀ (store : Store κ) part, store next = some part → store context = some into →
      hand.perform b store = (store.without next).put context <$> OptionT.lift (fold into part))
    (filled : ∀ new, (callbacksAll next (next + 1) operands).foldlM (Event.perform b)
        (store.put next new) =
      (store.put next new).put next <$> OptionT.lift (Expr.replayAll b new operands)) :
    (.opened next :: callbacksAll next (next + 1) operands ++ [hand]).foldlM
        (Event.perform b) store =
      store.put context <$> OptionT.lift (do
        let part ← Expr.replayAll b (← b.newContext) operands
        fold into part) := by
  have differs : context ≠ next := Nat.ne_of_lt old
  rw [List.cons_append, List.foldlM_cons, Event.perform]
  simp only [List.foldlM_append, filled, List.foldlM_cons, List.foldlM_nil, bind_pure,
    OptionT.lift_bind, map_bind, bind_map_left, Store.put_put]
  refine bind_congr fun new => bind_congr fun part => ?_
  rw [folds _ part (store.put_self next part) ((Store.put_of_ne differs part).trans holds),
    Store.without_put (free next (Nat.le_refl next))]

mutual

/-- The callbacks of a rule put into its context what the rule adds. -/
theorem foldlM_callbacks (plain : b.Plain) (rule : Expr) {store : Store κ} {context next : Nat}
    (free : store.FreeFrom next) (old : context < next) {into : κ}
    (holds : store context = some into) :
    (rule.callbacks context next).foldlM (Event.perform b) store =
      store.put context <$> OptionT.lift (rule.replay b into) := by
  match rule with
  | .and operands =>
    rw [Expr.callbacks, Expr.replay]
    refine foldlM_group free old holds (fun store part there holds => ?_) fun new => ?_
    · rw [Event.perform, there, holds]
      rfl
    · exact foldlM_callbacksAll plain operands (free.put new) (Nat.lt_succ_self next)
        (store.put_self next new)
  | .or operands =>
    rw [Expr.callbacks, Expr.replay]
    refine foldlM_group free old holds (fun store part there holds => ?_) fun new => ?_
    · rw [Event.perform, there, holds]
      rfl
    · exact foldlM_callbacksAll plain operands (free.put new) (Nat.lt_succ_self next)
        (store.put_self next new)
  | .ident name =>
    rw [Expr.callbacks, List.foldlM_cons, Event.perform, holds, Expr.replay]
    exact bind_pure _
  | .call name args =>
    rw [Expr.callbacks, Expr.replay]
    simp only [List.foldlM_append, List.foldlM_cons, List.foldlM_nil, bind_pure, Event.perform]
    rw [foldlM_argCallbacks plain args free]
    simp only [OptionT.lift_bind, map_bind, holds]
    rfl
  | .eq name value =>
    rw [Expr.callbacks, Expr.replay]
    simp only [List.foldlM_append, List.foldlM_cons, List.foldlM_nil, bind_pure, Event.perform,
      takeAll, Option.bind_some, Option.elim_map]
    simp only [OptionT.lift_bind, map_bind, plain into name]
    refine foldlM_argument plain value free fun kept built _ taken => ?_
    rw [taken]
    simp only [Function.comp_apply, Option.elim_some, holds]

theorem foldlM_callbacksAll (plain : b.Plain) (rules : List Expr) {store : Store κ}
    {context next : Nat} (free : store.FreeFrom next) (old : context < next) {into : κ}
    (holds : store context = some into) :
    (callbacksAll context next rules).foldlM (Event.perform b) store =
      store.put context <$> OptionT.lift (Expr.replayAll b into rules) := by
  match rules with
  | [] =>
    rw [Expr.replayAll, OptionT.lift_pure, map_pure, Store.put_holding holds]
    rfl
  | rule :: rules =>
    simp only [callbacksAll, List.foldlM_append, Expr.replayAll, OptionT.lift_bind, map_bind]
    rw [foldlM_callbacks plain rule free old holds, bind_map_left]
    refine bind_congr fun into => ?_
    rw [foldlM_callbacksAll plain rules ((free.put_old old into).mono (by omega)) (by omega)
      (store.put_self context into), Store.put_put]

/-- The callbacks of an argument leave a store from which the argument is taken as it is built. -/
theorem foldlM_argument (plain : b.Plain) (arg : ArgExpr) {store : Store κ} {next : Nat}
    (free : store.FreeFrom next) {α : Type} {f : Store κ → OptionT m α} {g : Arg κ → OptionT m α}
    (same : ∀ (kept : Store κ) built, kept.FreeFrom (next + arg.groups.length) →
      (arg.passed next).take kept = some (built, store) → f kept = g built) :
    (arg.callbacks next).foldlM (Event.perform b) store >>= f =
      OptionT.lift (arg.lower b) >>= g := by
  match arg with
  | .integer _ | .float _ | .string _ | .boolean _ =>
    rw [ArgExpr.lower, OptionT.lift_pure, pure_bind]
    exact (pure_bind _ _).trans (same store _ free rfl)
  | .expr rule =>
    rcases ident_or_other rule with ⟨name, rfl⟩ | other
    · rw [ArgExpr.groups, ArgExpr.passed] at same
      rw [ArgExpr.lower, ArgExpr.callbacks, OptionT.lift_pure, pure_bind]
      exact (pure_bind _ _).trans (same store _ free rfl)
    · rw [groups_rule other, passed_rule other, List.length_cons] at same
      rw [lower_rule _ other, callbacks_rule other, List.foldlM_cons]
      simp only [Event.perform, OptionT.lift_bind, bind_assoc, bind_map_left, OptionT.lift_pure,
        pure_bind]
      refine bind_congr fun new => ?_
      rw [foldlM_callbacks plain rule (free.put new) (Nat.lt_succ_self next)
        (store.put_self next new), bind_map_left, Store.put_put]
      refine bind_congr fun built => same _ _ ((free.put built).mono (by omega)) ?_
      rw [Arg.take, Store.put_self, Option.map_some,
        Store.without_put (free next (Nat.le_refl next))]

/-- The callbacks of arguments leave a store from which they are taken as they are built. -/
theorem foldlM_argCallbacks (plain : b.Plain) (args : List ArgExpr) {store : Store κ} {next : Nat}
    (free : store.FreeFrom next) {α : Type} (f : List (Arg κ) × Store κ → OptionT m α) :
    ((argCallbacks next args).foldlM (Event.perform b) store >>= fun store =>
      (takeAll store (passedAll next args)).elim failure f) =
      OptionT.lift (ArgExpr.lowerAll b args) >>= fun args => f (args, store) := by
  match args with
  | [] =>
    rw [ArgExpr.lowerAll, OptionT.lift_pure, pure_bind]
    exact pure_bind _ _
  | arg :: args =>
    simp only [argCallbacks, passedAll, List.foldlM_append, ArgExpr.lowerAll, OptionT.lift_bind,
      OptionT.lift_pure, bind_assoc, pure_bind, takeAll, elim_bind]
    refine foldlM_argument plain arg free fun kept built free taken => ?_
    rw [foldlM_argCallbacks plain args free]
    simp only [taken]
    rfl

end

/-- Doing all callbacks of a rule builds the rule: in the end its first context is there, filled,
and no other one. -/
theorem foldlM_allCallbacks (plain : b.Plain) (rule : Expr) :
    (rule.allCallbacks.foldlM (Event.perform b) Store.empty).run =
      (fun built => some (Store.empty.put 0 built)) <$> b.build rule := by
  have free (built : κ) : (Store.empty.put 0 built).FreeFrom 1 :=
    Store.FreeFrom.put (fun _ _ => rfl) built
  rw [Expr.allCallbacks, List.foldlM_cons, Event.perform, bind_map_left, OptionT.run_bind_lift,
    Builder.build, map_bind]
  refine bind_congr fun new => ?_
  rw [foldlM_callbacks plain rule (free new) Nat.one_pos (Store.put_self _ 0 new), Store.put_put]
  simp only [OptionT.run_map, OptionT.run_lift, bind_pure_comp, Functor.map_map, Option.map_some]

end RecordRules

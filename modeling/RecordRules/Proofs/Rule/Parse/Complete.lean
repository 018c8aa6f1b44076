import RecordRules.Proofs.Rule.Derivation

/-!
# Derivations are parsed

What a derivation spells is parsed as the rule of the derivation, whatever follows, if
what follows cannot belong to it.  Each statement asks for a budget of four calls for a
token and a few more, and so shows that the budget of `Expr.ofTokens` is never used up
on a rule.
-/

namespace RecordRules.Parse

open RecordRules.Derivation

/-! ## What may follow -/

/-- The kinds of tokens that end a chain of `||`. -/
def EndsRule (k : TokenKind) : Prop :=
  k = .close ∨ k = .comma ∨ k = .ending

/-- The kinds of tokens that end a chain of `&&`. -/
def EndsOperand (k : TokenKind) : Prop :=
  k = .or ∨ EndsRule k

/-- The kinds of tokens that end what the operators combine. -/
def EndsPrimary (k : TokenKind) : Prop :=
  k = .and ∨ EndsOperand k

theorem EndsRule.ne_or {k : TokenKind} (ends : EndsRule k) : k ≠ .or := by
  rcases ends with rfl | rfl | rfl <;> decide

theorem EndsOperand.ne_and {k : TokenKind} (ends : EndsOperand k) : k ≠ .and := by
  rcases ends with rfl | rfl | rfl | rfl <;> decide

theorem EndsPrimary.ne_open {k : TokenKind} (ends : EndsPrimary k) : k ≠ .open := by
  rcases ends with rfl | rfl | rfl | rfl | rfl <;> decide

theorem EndsPrimary.ne_equal {k : TokenKind} (ends : EndsPrimary k) : k ≠ .equal := by
  rcases ends with rfl | rfl | rfl | rfl | rfl <;> decide

/-! ## The token at hand -/

@[simp] theorem current_cons (t : Token) (ts : List Token) : current (t :: ts) = t := rfl

theorem advance_cons {t : Token} {ts : List Token} (more : ts ≠ []) : advance (t :: ts) = ts := by
  cases ts with
  | nil => exact absurd rfl more
  | cons _ _ => rfl

theorem literal_kind {t : Token} {ts : List Token} {value : Constant} (more : ts ≠ [])
    (kind : t.kind = value.kind) : literal (t :: ts) = some (value.arg, ts) := by
  cases value <;>
    simp only [literal, current_cons, kind, Constant.kind, Constant.arg, advance_cons more]

/-- The kinds of tokens with which a rule starts. -/
def StartsRule (k : TokenKind) : Prop :=
  k = .open ∨ ∃ name, k = .ident name

theorem literal_eq_none {ts : List Token} (starts : StartsRule (current ts).kind) :
    literal ts = none := by
  rcases starts with starts | ⟨name, starts⟩ <;> simp only [literal, starts]

theorem primary_starts (d : Primary) : ∃ k ks, d.kinds = k :: ks ∧ StartsRule k := by
  cases d with
  | enclosed inner => exact ⟨_, _, by rw [Primary.kinds], .inl rfl⟩
  | name name => exact ⟨_, _, by rw [Primary.kinds], .inr ⟨name, rfl⟩⟩
  | call name args =>
    cases args with
    | nil => exact ⟨_, _, by rw [Primary.kinds], .inr ⟨name, rfl⟩⟩
    | cons first rest => exact ⟨_, _, by rw [Primary.kinds], .inr ⟨name, rfl⟩⟩
  | comparison name value => exact ⟨_, _, by rw [Primary.kinds], .inr ⟨name, rfl⟩⟩

theorem conjunction_starts (d : Conjunction) : ∃ k ks, d.kinds = k :: ks ∧ StartsRule k := by
  obtain ⟨first, rest⟩ := d
  rcases primary_starts first with ⟨k, ks, kinds, starts⟩
  exact ⟨k, ks ++ conjunctKinds rest, by rw [Conjunction.kinds, kinds, List.cons_append], starts⟩

theorem disjunction_starts (d : Disjunction) : ∃ k ks, d.kinds = k :: ks ∧ StartsRule k := by
  obtain ⟨first, rest⟩ := d
  rcases conjunction_starts first with ⟨k, ks, kinds, starts⟩
  exact ⟨k, ks ++ disjunctKinds rest, by rw [Disjunction.kinds, kinds, List.cons_append], starts⟩

theorem arg_starts (d : Passed) : ∃ k ks, d.kinds = k :: ks ∧ k ≠ .close := by
  cases d with
  | literal value => exact ⟨_, _, by rw [Passed.kinds], by cases value <;> simp [Constant.kind]⟩
  | rule rule =>
    rcases disjunction_starts rule with ⟨k, ks, kinds, starts⟩
    refine ⟨k, ks, by rw [Passed.kinds, kinds], ?_⟩
    rcases starts with rfl | ⟨name, rfl⟩ <;> simp

/-! ## What a derivation spells is parsed -/

theorem current_append {front rest : List Token} {k : TokenKind} {ks : List TokenKind}
    (spells : front.map Token.kind = k :: ks) : (current (front ++ rest)).kind = k := by
  cases front with
  | nil => cases spells
  | cons t front => exact (List.cons.inj spells).1

theorem argKinds_ends {back rest : List Token} {others : List Passed}
    (spells : back.map Token.kind = argKinds others) : EndsRule (current (back ++ rest)).kind := by
  cases others with
  | nil => exact .inl (current_append (spells.trans (by rw [argKinds])))
  | cons second others => exact .inr (.inl (current_append (spells.trans (by rw [argKinds]))))

theorem operand_kinds_cons (d : Operand) : ∃ k ks, d.kinds = k :: ks := by
  cases d <;> exact ⟨_, _, by rw [Operand.kinds]⟩

theorem length_pos_of_spells {taken : List Token} {k : TokenKind} {ks : List TokenKind}
    (spells : taken.map Token.kind = k :: ks) : 0 < taken.length := by
  cases taken with
  | nil => cases spells
  | cons t taken => exact Nat.succ_pos _

/-- Parentheses around what is parsed. -/
theorem enclosed_complete {budget : Nat} {front rest : List Token} {t : Token} {rule : Expr}
    (parsed : disjunction budget (front ++ t :: rest) = .ok (rule, t :: rest))
    (close : t.kind = .close) (more : rest ≠ []) :
    enclosed (budget + 1) (front ++ t :: rest) = .ok (rule, rest) := by
  simp only [enclosed, parsed, bind, Except.bind, expect, current_cons, close, if_true,
    advance_cons more, pure, Except.pure]

mutual

theorem disjunction_complete (d : Disjunction) {budget : Nat} {taken rest : List Token}
    (spells : taken.map Token.kind = d.kinds) (ends : EndsRule (current rest).kind)
    (more : rest ≠ []) (enough : 4 * taken.length + 4 ≤ budget) :
    disjunction budget (taken ++ rest) = .ok (d.expr, rest) := by
  match d, budget with
  | .chain first others, budget + 1 =>
    rw [Disjunction.kinds] at spells
    rcases List.map_eq_append_iff.1 spells with ⟨front, back, rfl, spellsFirst, spellsOthers⟩
    rw [List.length_append] at enough
    have parsedOthers : disjuncts budget (back ++ rest) = .ok (disjunctExprs others, rest) :=
      disjuncts_complete others spellsOthers ends more (by omega)
    match others with
    | [] =>
      obtain rfl : back = [] := List.map_eq_nil_iff.1 spellsOthers
      have parsedFirst : conjunction budget (front ++ rest) = .ok (first.expr, rest) :=
        conjunction_complete first spellsFirst (.inr ends) more (by omega)
      simp only [disjunction, List.append_nil, parsedFirst, bind, Except.bind, ends.ne_or, if_false,
        Disjunction.expr, pure, Except.pure]
    | second :: others =>
      have next : (current (back ++ rest)).kind = .or := current_append spellsOthers
      have parsedFirst : conjunction budget (front ++ (back ++ rest)) =
          .ok (first.expr, back ++ rest) :=
        conjunction_complete first spellsFirst (.inl next) (by simp [more]) (by omega)
      simp only [disjunction, List.append_assoc, parsedFirst, bind, Except.bind, next, if_true,
        parsedOthers, Disjunction.expr, disjunctExprs, pure, Except.pure]

theorem disjuncts_complete (ds : List Conjunction) {budget : Nat} {taken rest : List Token}
    (spells : taken.map Token.kind = disjunctKinds ds) (ends : EndsRule (current rest).kind)
    (more : rest ≠ []) (enough : 4 * taken.length + 1 ≤ budget) :
    disjuncts budget (taken ++ rest) = .ok (disjunctExprs ds, rest) := by
  match ds, budget with
  | [], budget + 1 =>
    obtain rfl : taken = [] := List.map_eq_nil_iff.1 spells
    simp only [disjuncts, List.nil_append, ends.ne_or, if_false, disjunctExprs]
  | first :: others, budget + 1 =>
    match taken with
    | [] => cases spells
    | t :: taken =>
      rcases List.cons.inj spells with ⟨kind, spells⟩
      rcases List.map_eq_append_iff.1 spells with ⟨front, back, rfl, spellsFirst, spellsOthers⟩
      rw [List.length_cons, List.length_append] at enough
      have parsedOthers : disjuncts budget (back ++ rest) = .ok (disjunctExprs others, rest) :=
        disjuncts_complete others spellsOthers ends more (by omega)
      have next : EndsOperand (current (back ++ rest)).kind := by
        match others with
        | [] =>
          obtain rfl : back = [] := List.map_eq_nil_iff.1 spellsOthers
          exact .inr ends
        | second :: others => exact .inl (current_append spellsOthers)
      have parsedFirst : conjunction budget (front ++ (back ++ rest)) =
          .ok (first.expr, back ++ rest) :=
        conjunction_complete first spellsFirst next (by simp [more]) (by omega)
      simp only [disjuncts, List.cons_append, current_cons, kind, if_true, List.append_assoc,
        advance_cons (show front ++ (back ++ rest) ≠ [] by simp [more]), parsedFirst, bind,
        Except.bind, parsedOthers, disjunctExprs, pure, Except.pure]

theorem conjunction_complete (d : Conjunction) {budget : Nat} {taken rest : List Token}
    (spells : taken.map Token.kind = d.kinds) (ends : EndsOperand (current rest).kind)
    (more : rest ≠ []) (enough : 4 * taken.length + 3 ≤ budget) :
    conjunction budget (taken ++ rest) = .ok (d.expr, rest) := by
  match d, budget with
  | .chain first others, budget + 1 =>
    rw [Conjunction.kinds] at spells
    rcases List.map_eq_append_iff.1 spells with ⟨front, back, rfl, spellsFirst, spellsOthers⟩
    rw [List.length_append] at enough
    have parsedOthers : conjuncts budget (back ++ rest) = .ok (conjunctExprs others, rest) :=
      conjuncts_complete others spellsOthers ends more (by omega)
    match others with
    | [] =>
      obtain rfl : back = [] := List.map_eq_nil_iff.1 spellsOthers
      have parsedFirst : primary budget (front ++ rest) = .ok (first.expr, rest) :=
        primary_complete first spellsFirst (.inr ends) more (by omega)
      simp only [conjunction, List.append_nil, parsedFirst, bind, Except.bind, ends.ne_and,
        if_false, Conjunction.expr, pure, Except.pure]
    | second :: others =>
      have next : (current (back ++ rest)).kind = .and := current_append spellsOthers
      have parsedFirst : primary budget (front ++ (back ++ rest)) =
          .ok (first.expr, back ++ rest) :=
        primary_complete first spellsFirst (.inl next) (by simp [more]) (by omega)
      simp only [conjunction, List.append_assoc, parsedFirst, bind, Except.bind, next, if_true,
        parsedOthers, Conjunction.expr, conjunctExprs, pure, Except.pure]

theorem conjuncts_complete (ds : List Primary) {budget : Nat} {taken rest : List Token}
    (spells : taken.map Token.kind = conjunctKinds ds) (ends : EndsOperand (current rest).kind)
    (more : rest ≠ []) (enough : 4 * taken.length + 1 ≤ budget) :
    conjuncts budget (taken ++ rest) = .ok (conjunctExprs ds, rest) := by
  match ds, budget with
  | [], budget + 1 =>
    obtain rfl : taken = [] := List.map_eq_nil_iff.1 spells
    simp only [conjuncts, List.nil_append, ends.ne_and, if_false, conjunctExprs]
  | first :: others, budget + 1 =>
    match taken with
    | [] => cases spells
    | t :: taken =>
      rcases List.cons.inj spells with ⟨kind, spells⟩
      rcases List.map_eq_append_iff.1 spells with ⟨front, back, rfl, spellsFirst, spellsOthers⟩
      rw [List.length_cons, List.length_append] at enough
      have parsedOthers : conjuncts budget (back ++ rest) = .ok (conjunctExprs others, rest) :=
        conjuncts_complete others spellsOthers ends more (by omega)
      have next : EndsPrimary (current (back ++ rest)).kind := by
        match others with
        | [] =>
          obtain rfl : back = [] := List.map_eq_nil_iff.1 spellsOthers
          exact .inr ends
        | second :: others => exact .inl (current_append spellsOthers)
      have parsedFirst : primary budget (front ++ (back ++ rest)) =
          .ok (first.expr, back ++ rest) :=
        primary_complete first spellsFirst next (by simp [more]) (by omega)
      simp only [conjuncts, List.cons_append, current_cons, kind, if_true, List.append_assoc,
        advance_cons (show front ++ (back ++ rest) ≠ [] by simp [more]), parsedFirst, bind,
        Except.bind, parsedOthers, conjunctExprs, pure, Except.pure]

theorem primary_complete (d : Primary) {budget : Nat} {taken rest : List Token}
    (spells : taken.map Token.kind = d.kinds) (ends : EndsPrimary (current rest).kind)
    (more : rest ≠ []) (enough : 4 * taken.length + 2 ≤ budget) :
    primary budget (taken ++ rest) = .ok (d.expr, rest) := by
  have taken_pos : 0 < taken.length := by
    rcases primary_starts d with ⟨k, ks, kinds, -⟩
    exact length_pos_of_spells (spells.trans kinds)
  obtain ⟨budget, rfl⟩ : ∃ b, budget = b + 3 := ⟨budget - 3, by omega⟩
  match d with
  | .enclosed inner =>
    rw [Primary.kinds] at spells
    rcases List.map_eq_cons_iff.1 spells with ⟨t, back, rfl, kind, spells⟩
    rcases List.map_eq_append_iff.1 spells with ⟨front, last, rfl, spellsInner, spellsLast⟩
    rcases List.map_eq_singleton_iff.1 spellsLast with ⟨close, rfl, closes⟩
    simp only [List.length_cons, List.length_append, List.length_nil] at enough
    have parsed : disjunction (budget + 1) (front ++ close :: rest) =
        .ok (inner.expr, close :: rest) :=
      disjunction_complete inner spellsInner (.inl closes) (by simp) (by omega)
    have rest_ne : front ++ close :: rest ≠ [] := by simp
    simp only [primary, List.cons_append, current_cons, kind, List.append_assoc, List.nil_append,
      advance_cons rest_ne, enclosed_complete parsed closes more, Primary.expr]
  | .name name =>
    rw [Primary.kinds] at spells
    rcases List.map_eq_singleton_iff.1 spells with ⟨t, rfl, kind⟩
    simp only [primary, List.cons_append, current_cons, kind, List.nil_append, advance_cons more,
      named, Primary.expr]
    split
    · next is => exact absurd is ends.ne_open
    · next is => exact absurd is ends.ne_equal
    · rfl
  | .call name [] =>
    rw [Primary.kinds] at spells
    rcases List.map_eq_cons_iff.1 spells with ⟨t, _, rfl, kind, spells⟩
    rcases List.map_eq_cons_iff.1 spells with ⟨left, _, rfl, opens, spells⟩
    rcases List.map_eq_singleton_iff.1 spells with ⟨close, rfl, closes⟩
    simp only [primary, List.cons_append, current_cons, kind, List.nil_append,
      advance_cons (List.cons_ne_nil _ _), named, opens, closes, if_true, advance_cons more,
      Primary.expr, argExprs, pure, Except.pure]
  | .call name (first :: others) =>
    rw [Primary.kinds] at spells
    rcases List.map_eq_cons_iff.1 spells with ⟨t, _, rfl, kind, spells⟩
    rcases List.map_eq_cons_iff.1 spells with ⟨left, taken, rfl, opens, spells⟩
    rcases List.map_eq_append_iff.1 spells with ⟨front, back, rfl, spellsFirst, spells⟩
    simp only [List.length_cons, List.length_append] at enough
    have parsedFirst : argument budget (front ++ (back ++ rest)) = .ok (first.arg, back ++ rest) :=
      argument_complete first spellsFirst (argKinds_ends spells) (by simp [more]) (by omega)
    have parsed := arguments_complete others parsedFirst spells more (by omega)
    have next_ne : front ++ (back ++ rest) ≠ [] := by simp [more]
    have not_close : (current (front ++ (back ++ rest))).kind ≠ .close := by
      rcases arg_starts first with ⟨k, ks, kinds, starts⟩
      rw [current_append (spellsFirst.trans kinds)]
      exact starts
    simp only [primary, List.cons_append, List.append_assoc, current_cons, kind,
      advance_cons (List.cons_ne_nil _ _), named, opens, advance_cons next_ne, not_close, if_false,
      parsed, bind, Except.bind, Primary.expr, argExprs, pure, Except.pure]
  | .comparison name value =>
    rw [Primary.kinds] at spells
    rcases List.map_eq_cons_iff.1 spells with ⟨t, _, rfl, kind, spells⟩
    rcases List.map_eq_cons_iff.1 spells with ⟨equal, taken, rfl, equals, spells⟩
    simp only [List.length_cons] at enough
    have parsed : comparand (budget + 1) (taken ++ rest) = .ok (value.arg, rest) :=
      comparand_complete value spells more (by omega)
    have taken_ne : taken ++ rest ≠ [] := by simp [more]
    simp only [primary, List.cons_append, current_cons, kind, advance_cons (List.cons_ne_nil _ _),
      named, equals, advance_cons taken_ne, parsed, bind, Except.bind, Primary.expr, pure,
      Except.pure]

theorem arguments_complete (others : List Passed) {budget : Nat} {front back rest : List Token}
    {first : ArgExpr}
    (parsed : argument budget (front ++ (back ++ rest)) = .ok (first, back ++ rest))
    (spells : back.map Token.kind = argKinds others) (more : rest ≠ [])
    (enough : 4 * back.length + 2 ≤ budget) :
    arguments (budget + 1) (front ++ (back ++ rest)) = .ok (first :: argExprs others, rest) := by
  match others, budget with
  | [], budget =>
    rw [argKinds] at spells
    rcases List.map_eq_singleton_iff.1 spells with ⟨close, rfl, closes⟩
    rw [List.cons_append, List.nil_append] at parsed ⊢
    rw [arguments, parsed]
    simp only [bind, Except.bind, current_cons, closes, reduceCtorEq, if_false, expect, if_true,
      advance_cons more, argExprs, pure, Except.pure]
  | second :: others, budget + 1 =>
    rw [argKinds] at spells
    rcases List.map_eq_cons_iff.1 spells with ⟨comma, back, rfl, commas, spells⟩
    rcases List.map_eq_append_iff.1 spells with ⟨front, back, rfl, spellsSecond, spells⟩
    simp only [List.length_cons, List.length_append] at enough
    have parsedSecond : argument budget (front ++ (back ++ rest)) =
        .ok (second.arg, back ++ rest) :=
      argument_complete second spellsSecond (argKinds_ends spells) (by simp [more]) (by omega)
    have parsedOthers := arguments_complete others parsedSecond spells more (by omega)
    have next_ne : front ++ (back ++ rest) ≠ [] := by simp [more]
    rw [List.cons_append, List.append_assoc] at parsed ⊢
    rw [arguments, parsed]
    simp only [bind, Except.bind, current_cons, commas, if_true, advance_cons next_ne, parsedOthers,
      argExprs, pure, Except.pure]

theorem argument_complete (d : Passed) {budget : Nat} {taken rest : List Token}
    (spells : taken.map Token.kind = d.kinds) (ends : EndsRule (current rest).kind)
    (more : rest ≠ []) (enough : 4 * taken.length + 5 ≤ budget) :
    argument budget (taken ++ rest) = .ok (d.arg, rest) := by
  match d, budget with
  | .literal value, budget + 1 =>
    rw [Passed.kinds] at spells
    rcases List.map_eq_singleton_iff.1 spells with ⟨t, rfl, kind⟩
    simp only [argument, List.cons_append, List.nil_append, literal_kind more kind, Passed.arg]
  | .rule rule, budget + 1 =>
    rw [Passed.kinds] at spells
    have parsed : disjunction budget (taken ++ rest) = .ok (rule.expr, rest) :=
      disjunction_complete rule spells ends more (by omega)
    rcases disjunction_starts rule with ⟨k, ks, kinds, starts⟩
    rw [kinds] at spells
    have none : literal (taken ++ rest) = none :=
      literal_eq_none (by rw [current_append spells]; exact starts)
    simp only [argument, none, parsed, bind, Except.bind, Passed.arg, pure, Except.pure]

theorem comparand_complete (d : Operand) {budget : Nat} {taken rest : List Token}
    (spells : taken.map Token.kind = d.kinds) (more : rest ≠ [])
    (enough : 4 * taken.length + 1 ≤ budget) :
    comparand budget (taken ++ rest) = .ok (d.arg, rest) := by
  have taken_pos : 0 < taken.length := by
    rcases operand_kinds_cons d with ⟨k, ks, kinds⟩
    exact length_pos_of_spells (spells.trans kinds)
  obtain ⟨budget, rfl⟩ : ∃ b, budget = b + 2 := ⟨budget - 2, by omega⟩
  match d with
  | .literal value =>
    rw [Operand.kinds] at spells
    rcases List.map_eq_singleton_iff.1 spells with ⟨t, rfl, kind⟩
    simp only [comparand, List.cons_append, List.nil_append, literal_kind more kind, Operand.arg]
  | .name name =>
    rw [Operand.kinds] at spells
    rcases List.map_eq_singleton_iff.1 spells with ⟨t, rfl, kind⟩
    have none : literal (t :: rest) = none := literal_eq_none (.inr ⟨name, kind⟩)
    simp only [comparand, List.cons_append, List.nil_append, none, current_cons, kind,
      advance_cons more, Operand.arg]
  | .enclosed inner =>
    rw [Operand.kinds] at spells
    rcases List.map_eq_cons_iff.1 spells with ⟨t, back, rfl, kind, spells⟩
    rcases List.map_eq_append_iff.1 spells with ⟨front, last, rfl, spellsInner, spellsLast⟩
    rcases List.map_eq_singleton_iff.1 spellsLast with ⟨close, rfl, closes⟩
    simp only [List.length_cons, List.length_append, List.length_nil] at enough
    have parsed : disjunction budget (front ++ close :: rest) = .ok (inner.expr, close :: rest) :=
      disjunction_complete inner spellsInner (.inl closes) (by simp) (by omega)
    have rest_ne : front ++ close :: rest ≠ [] := by simp
    have none : literal (t :: (front ++ close :: rest)) = none := literal_eq_none (.inl kind)
    simp only [comparand, List.cons_append, List.append_assoc, List.nil_append, none, current_cons,
      kind, advance_cons rest_ne, enclosed_complete parsed closes more, bind, Except.bind,
      Operand.arg, pure, Except.pure]

end

end RecordRules.Parse

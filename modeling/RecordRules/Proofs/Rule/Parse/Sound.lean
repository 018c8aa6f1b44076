import RecordRules.Proofs.Except
import RecordRules.Proofs.Rule.Derivation

/-!
# What is parsed has a derivation

Whenever a parser gives a rule for a list of tokens that ends in an ending, the tokens that
it took are spelled by a derivation of that rule, which ends there: the next token does not
go on it.
-/

namespace RecordRules.Parse

open RecordRules.Derivation

/-! ## Tokens taken -/

/-- The list of tokens ends in an ending. -/
def Ended : List Token → Prop
  | [] => False
  | [t] => t.kind = .ending
  | _ :: ts => Ended ts

theorem Ended.ne_nil {ts : List Token} (ended : Ended ts) : ts ≠ [] := by
  rintro rfl
  exact ended

theorem Ended.length_pos {ts : List Token} (ended : Ended ts) : 0 < ts.length :=
  List.length_pos_iff.mpr ended.ne_nil

theorem Ended.drop {ts : List Token} (ended : Ended ts) {p : Nat} (inside : p < ts.length) :
    Ended (ts.drop p) := by
  induction p generalizing ts with
  | zero => exact ended
  | succ p ih =>
    match ts with
    | [] => exact ended
    | [t] => exact absurd (Nat.lt_of_succ_lt_succ inside) (Nat.not_lt_zero p)
    | t :: next :: ts =>
      have others : Ended (next :: ts) := ended
      exact ih others (Nat.lt_of_succ_lt_succ inside)

/-- The tokens of these kinds lead from one list to another that ends in an ending. -/
def Spelled (kinds : List TokenKind) (ts rest : List Token) : Prop :=
  Ended rest ∧ ∃ taken, ts = taken ++ rest ∧ taken.map Token.kind = kinds

theorem Spelled.nil {ts : List Token} (ended : Ended ts) : Spelled [] ts ts :=
  ⟨ended, [], rfl, rfl⟩

theorem Spelled.append {front back : List TokenKind} {ts middle rest : List Token}
    (first : Spelled front ts middle) (second : Spelled back middle rest) :
    Spelled (front ++ back) ts rest := by
  obtain ⟨-, taken, rfl, rfl⟩ := first
  obtain ⟨ended, others, rfl, rfl⟩ := second
  exact ⟨ended, taken ++ others, by rw [List.append_assoc], List.map_append⟩

theorem Spelled.cons {k : TokenKind} {kinds : List TokenKind} {ts middle rest : List Token}
    (first : Spelled [k] ts middle) (second : Spelled kinds middle rest) :
    Spelled (k :: kinds) ts rest :=
  first.append second

/-- A token that is not the ending is taken by going on to the next one. -/
theorem Spelled.advance {ts : List Token} {k : TokenKind} (ended : Ended ts)
    (kind : (current ts).kind = k) (more : k ≠ .ending) : Spelled [k] ts (advance ts) := by
  match ts with
  | [] => exact ended.elim
  | [t] => exact absurd (kind.symm.trans ended) more
  | t :: next :: rest => exact ⟨ended, [t], rfl, by rw [← kind]; rfl⟩

theorem Spelled.eq_of_nil {ts rest : List Token} (spelled : Spelled [] ts rest) : ts = rest := by
  obtain ⟨-, taken, rfl, kinds⟩ := spelled
  rw [List.map_eq_nil_iff.mp kinds, List.nil_append]

theorem Spelled.length {kinds : List TokenKind} {ts rest : List Token}
    (spelled : Spelled kinds ts rest) : ts.length = kinds.length + rest.length := by
  obtain ⟨-, taken, rfl, rfl⟩ := spelled
  rw [List.length_append, List.length_map]

theorem literal_sound {ts rest : List Token} {arg : ArgExpr} (ended : Ended ts)
    (parsed : literal ts = some (arg, rest)) :
    ∃ value : Constant, value.arg = arg ∧ Spelled [value.kind] ts rest := by
  rw [literal] at parsed
  split at parsed
  · next value kind =>
    cases parsed
    exact ⟨.integer value, rfl, .advance ended kind (by simp [Constant.kind])⟩
  · next value kind =>
    cases parsed
    exact ⟨.float value, rfl, .advance ended kind (by simp [Constant.kind])⟩
  · next value kind =>
    cases parsed
    exact ⟨.string value, rfl, .advance ended kind (by simp [Constant.kind])⟩
  · next value kind =>
    cases parsed
    exact ⟨.boolean value, rfl, .advance ended kind (by simp [Constant.kind])⟩
  · cases parsed

/-- A token that is expected and not the ending is taken. -/
theorem expect_sound {k : TokenKind} {expected : Expectation} {ts rest : List Token}
    (ended : Ended ts) (parsed : expect k expected ts = .ok ((), rest)) (more : k ≠ .ending) :
    Spelled [k] ts rest := by
  rw [expect] at parsed
  split at parsed
  · next kind =>
    cases parsed
    exact .advance ended kind more
  · cases parsed

/-! ## The parsers, by induction on the budget -/

mutual

theorem disjunction_sound (budget : Nat) {ts rest : List Token} {rule : Expr} (ended : Ended ts)
    (parsed : disjunction budget ts = .ok (rule, rest)) :
    ∃ d : Disjunction, d.expr = rule ∧ Spelled d.kinds ts rest ∧ d.EndsAt (current rest).kind := by
  match budget with
  | 0 => cases parsed
  | budget + 1 =>
    rw [disjunction] at parsed
    rcases bind_eq_ok_iff.1 parsed with ⟨⟨first, middle⟩, parsedFirst, parsed⟩
    rcases conjunction_sound budget ended parsedFirst with ⟨first, rfl, spelledFirst, ends⟩
    dsimp only at parsed
    split at parsed
    · next next =>
      rcases bind_eq_ok_iff.1 parsed with ⟨⟨others, rest⟩, parsedOthers, parsed⟩
      cases parsed
      obtain ⟨others, rfl, spelledOthers, endOthers, some⟩ :=
        disjuncts_sound budget spelledFirst.1 parsedOthers
      match others with
      | [] => exact absurd rfl (some next)
      | second :: others =>
        refine ⟨.chain first (second :: others), ?_, ?_, endOthers⟩
        · rw [Disjunction.expr, disjunctExprs]
        · rw [Disjunction.kinds]
          exact spelledFirst.append spelledOthers
    · next next =>
      cases parsed
      refine ⟨.chain first [], ?_, ?_, next, fun _ is => Option.some.inj is ▸ ends⟩
      · rw [Disjunction.expr]
      · rw [Disjunction.kinds, disjunctKinds, List.append_nil]
        exact spelledFirst

theorem disjuncts_sound (budget : Nat) {ts rest : List Token} {rules : List Expr}
    (ended : Ended ts) (parsed : disjuncts budget ts = .ok (rules, rest)) :
    ∃ ds : List Conjunction, disjunctExprs ds = rules ∧ Spelled (disjunctKinds ds) ts rest ∧
      disjunctsEndAt ds (current rest).kind ∧ ((current ts).kind = .or → ds ≠ []) := by
  match budget with
  | 0 => cases parsed
  | budget + 1 =>
    rw [disjuncts] at parsed
    split at parsed
    · next next =>
      have spelledOr : Spelled [.or] ts (advance ts) := .advance ended next (by simp)
      rcases bind_eq_ok_iff.1 parsed with ⟨⟨first, middle⟩, parsedFirst, parsed⟩
      rcases conjunction_sound budget spelledOr.1 parsedFirst with ⟨first, rfl, spelledFirst, ends⟩
      rcases bind_eq_ok_iff.1 parsed with ⟨⟨others, rest⟩, parsedOthers, parsed⟩
      cases parsed
      rcases disjuncts_sound budget spelledFirst.1 parsedOthers with
        ⟨others, rfl, spelledOthers, endOthers, -⟩
      refine ⟨first :: others, ?_, ?_, ?_, fun _ => List.cons_ne_nil _ _⟩
      · rw [disjunctExprs]
      · rw [disjunctKinds]
        exact spelledOr.cons (spelledFirst.append spelledOthers)
      · cases others with
        | nil =>
          obtain rfl := spelledOthers.eq_of_nil
          exact ⟨endOthers.1, fun _ is => Option.some.inj is ▸ ends⟩
        | cons second others => exact endOthers
    · next next =>
      cases parsed
      refine ⟨[], ?_, ?_, ⟨next, fun _ is => by cases is⟩, fun is => absurd is next⟩
      · rw [disjunctExprs]
      · rw [disjunctKinds]
        exact .nil ended

theorem conjunction_sound (budget : Nat) {ts rest : List Token} {rule : Expr} (ended : Ended ts)
    (parsed : conjunction budget ts = .ok (rule, rest)) :
    ∃ d : Conjunction, d.expr = rule ∧ Spelled d.kinds ts rest ∧ d.EndsAt (current rest).kind := by
  match budget with
  | 0 => cases parsed
  | budget + 1 =>
    rw [conjunction] at parsed
    rcases bind_eq_ok_iff.1 parsed with ⟨⟨first, middle⟩, parsedFirst, parsed⟩
    rcases primary_sound budget ended parsedFirst with ⟨first, rfl, spelledFirst, ends⟩
    dsimp only at parsed
    split at parsed
    · next next =>
      rcases bind_eq_ok_iff.1 parsed with ⟨⟨others, rest⟩, parsedOthers, parsed⟩
      cases parsed
      obtain ⟨others, rfl, spelledOthers, endOthers, some⟩ :=
        conjuncts_sound budget spelledFirst.1 parsedOthers
      match others with
      | [] => exact absurd rfl (some next)
      | second :: others =>
        refine ⟨.chain first (second :: others), ?_, ?_, endOthers⟩
        · rw [Conjunction.expr, conjunctExprs]
        · rw [Conjunction.kinds]
          exact spelledFirst.append spelledOthers
    · next next =>
      cases parsed
      refine ⟨.chain first [], ?_, ?_, next, fun _ is => Option.some.inj is ▸ ends⟩
      · rw [Conjunction.expr]
      · rw [Conjunction.kinds, conjunctKinds, List.append_nil]
        exact spelledFirst

theorem conjuncts_sound (budget : Nat) {ts rest : List Token} {rules : List Expr}
    (ended : Ended ts) (parsed : conjuncts budget ts = .ok (rules, rest)) :
    ∃ ds : List Primary, conjunctExprs ds = rules ∧ Spelled (conjunctKinds ds) ts rest ∧
      conjunctsEndAt ds (current rest).kind ∧ ((current ts).kind = .and → ds ≠ []) := by
  match budget with
  | 0 => cases parsed
  | budget + 1 =>
    rw [conjuncts] at parsed
    split at parsed
    · next next =>
      have spelledAnd : Spelled [.and] ts (advance ts) := .advance ended next (by simp)
      rcases bind_eq_ok_iff.1 parsed with ⟨⟨first, middle⟩, parsedFirst, parsed⟩
      rcases primary_sound budget spelledAnd.1 parsedFirst with ⟨first, rfl, spelledFirst, ends⟩
      rcases bind_eq_ok_iff.1 parsed with ⟨⟨others, rest⟩, parsedOthers, parsed⟩
      cases parsed
      rcases conjuncts_sound budget spelledFirst.1 parsedOthers with
        ⟨others, rfl, spelledOthers, endOthers, -⟩
      refine ⟨first :: others, ?_, ?_, ?_, fun _ => List.cons_ne_nil _ _⟩
      · rw [conjunctExprs]
      · rw [conjunctKinds]
        exact spelledAnd.cons (spelledFirst.append spelledOthers)
      · cases others with
        | nil =>
          obtain rfl := spelledOthers.eq_of_nil
          exact ⟨endOthers.1, fun _ is => Option.some.inj is ▸ ends⟩
        | cons second others => exact endOthers
    · next next =>
      cases parsed
      refine ⟨[], ?_, ?_, ⟨next, fun _ is => by cases is⟩, fun is => absurd is next⟩
      · rw [conjunctExprs]
      · rw [conjunctKinds]
        exact .nil ended

theorem primary_sound (budget : Nat) {ts rest : List Token} {rule : Expr} (ended : Ended ts)
    (parsed : primary budget ts = .ok (rule, rest)) :
    ∃ d : Primary, d.expr = rule ∧ Spelled d.kinds ts rest ∧ d.EndsAt (current rest).kind := by
  match budget with
  | 0 => cases parsed
  | budget + 1 =>
    rw [primary] at parsed
    split at parsed
    · next kind =>
      have spelledOpen : Spelled [.open] ts (advance ts) := .advance ended kind (by simp)
      rcases enclosed_sound budget spelledOpen.1 parsed with ⟨inner, rfl, spelledInner⟩
      refine ⟨.enclosed inner, ?_, ?_, trivial⟩
      · rw [Primary.expr]
      · rw [Primary.kinds]
        exact spelledOpen.cons spelledInner
    · next name kind =>
      have spelledName : Spelled [.ident name] ts (advance ts) := .advance ended kind (by simp)
      exact named_sound budget spelledName parsed
    · cases parsed

theorem enclosed_sound (budget : Nat) {ts rest : List Token} {rule : Expr} (ended : Ended ts)
    (parsed : enclosed budget ts = .ok (rule, rest)) :
    ∃ d : Disjunction, d.expr = rule ∧ Spelled (d.kinds ++ [.close]) ts rest := by
  match budget with
  | 0 => cases parsed
  | budget + 1 =>
    rw [enclosed] at parsed
    rcases bind_eq_ok_iff.1 parsed with ⟨⟨inner, middle⟩, parsedInner, parsed⟩
    rcases disjunction_sound budget ended parsedInner with ⟨inner, rfl, spelledInner, -⟩
    rcases bind_eq_ok_iff.1 parsed with ⟨⟨⟨⟩, rest⟩, closes, parsed⟩
    cases parsed
    have spelledClose : Spelled [.close] middle rest :=
      expect_sound spelledInner.1 closes (by simp)
    exact ⟨inner, rfl, spelledInner.append spelledClose⟩

theorem named_sound (budget : Nat) {name : String} {ts middle rest : List Token} {rule : Expr}
    (spelledName : Spelled [.ident name] ts middle)
    (parsed : named budget name middle = .ok (rule, rest)) :
    ∃ d : Primary, d.expr = rule ∧ Spelled d.kinds ts rest ∧ d.EndsAt (current rest).kind := by
  match budget with
  | 0 => cases parsed
  | budget + 1 =>
    rw [named] at parsed
    split at parsed
    · next kind =>
      have spelledOpen : Spelled [.open] middle (advance middle) :=
        .advance spelledName.1 kind (by simp)
      dsimp only at parsed
      split at parsed
      · next close =>
        cases parsed
        have spelledClose := Spelled.advance spelledOpen.1 close (by simp)
        refine ⟨.call name [], ?_, ?_, trivial⟩
        · rw [Primary.expr, argExprs]
        · rw [Primary.kinds]
          exact spelledName.cons (spelledOpen.cons spelledClose)
      · rcases bind_eq_ok_iff.1 parsed with ⟨⟨args, rest⟩, parsedArgs, parsed⟩
        cases parsed
        obtain ⟨first, others, rfl, spelledArgs⟩ := arguments_sound budget spelledOpen.1 parsedArgs
        refine ⟨.call name (first :: others), ?_, ?_, trivial⟩
        · rw [Primary.expr, argExprs]
        · rw [Primary.kinds]
          exact spelledName.cons (spelledOpen.cons spelledArgs)
    · next kind =>
      have spelledEqual : Spelled [.equal] middle (advance middle) :=
        .advance spelledName.1 kind (by simp)
      rcases bind_eq_ok_iff.1 parsed with ⟨⟨value, rest⟩, parsedValue, parsed⟩
      cases parsed
      rcases comparand_sound budget spelledEqual.1 parsedValue with ⟨value, rfl, spelledValue⟩
      refine ⟨.comparison name value, ?_, ?_, trivial⟩
      · rw [Primary.expr]
      · rw [Primary.kinds]
        exact spelledName.cons (spelledEqual.cons spelledValue)
    · next no_open no_equal =>
      cases parsed
      refine ⟨.name name, ?_, ?_, no_open, no_equal⟩
      · rw [Primary.expr]
      · rw [Primary.kinds]
        exact spelledName

theorem arguments_sound (budget : Nat) {ts rest : List Token} {args : List ArgExpr}
    (ended : Ended ts) (parsed : arguments budget ts = .ok (args, rest)) :
    ∃ (first : Passed) (others : List Passed), first.arg :: argExprs others = args ∧
      Spelled (first.kinds ++ argKinds others) ts rest := by
  match budget with
  | 0 => cases parsed
  | budget + 1 =>
    rw [arguments] at parsed
    rcases bind_eq_ok_iff.1 parsed with ⟨⟨first, middle⟩, parsedFirst, parsed⟩
    rcases argument_sound budget ended parsedFirst with ⟨first, rfl, spelledFirst, -⟩
    dsimp only at parsed
    split at parsed
    · next comma =>
      have spelledComma : Spelled [.comma] middle (advance middle) :=
        .advance spelledFirst.1 comma (by simp)
      rcases bind_eq_ok_iff.1 parsed with ⟨⟨others, rest⟩, parsedOthers, parsed⟩
      cases parsed
      obtain ⟨second, others, rfl, spelledOthers⟩ :=
        arguments_sound budget spelledComma.1 parsedOthers
      refine ⟨first, second :: others, ?_, ?_⟩
      · rw [argExprs]
      · rw [argKinds]
        exact spelledFirst.append (spelledComma.cons spelledOthers)
    · rcases bind_eq_ok_iff.1 parsed with ⟨⟨⟨⟩, rest⟩, closes, parsed⟩
      cases parsed
      have spelledClose : Spelled [.close] middle rest :=
        expect_sound spelledFirst.1 closes (by simp)
      refine ⟨first, [], ?_, ?_⟩
      · rw [argExprs]
      · rw [argKinds]
        exact spelledFirst.append spelledClose

theorem argument_sound (budget : Nat) {ts rest : List Token} {arg : ArgExpr} (ended : Ended ts)
    (parsed : argument budget ts = .ok (arg, rest)) :
    ∃ d : Passed, d.arg = arg ∧ Spelled d.kinds ts rest ∧ d.EndsAt (current rest).kind := by
  match budget with
  | 0 => cases parsed
  | budget + 1 =>
    rw [argument] at parsed
    split at parsed
    · next taken =>
      cases parsed
      rcases literal_sound ended taken with ⟨value, rfl, spelled⟩
      refine ⟨.literal value, ?_, ?_, trivial⟩
      · rw [Passed.arg]
      · rw [Passed.kinds]
        exact spelled
    · rcases bind_eq_ok_iff.1 parsed with ⟨⟨inner, rest⟩, parsedInner, parsed⟩
      cases parsed
      rcases disjunction_sound budget ended parsedInner with ⟨inner, rfl, spelled, ends⟩
      refine ⟨.rule inner, ?_, ?_, ends⟩
      · rw [Passed.arg]
      · rw [Passed.kinds]
        exact spelled

theorem comparand_sound (budget : Nat) {ts rest : List Token} {arg : ArgExpr} (ended : Ended ts)
    (parsed : comparand budget ts = .ok (arg, rest)) :
    ∃ d : Operand, d.arg = arg ∧ Spelled d.kinds ts rest := by
  match budget with
  | 0 => cases parsed
  | budget + 1 =>
    rw [comparand] at parsed
    split at parsed
    · next taken =>
      cases parsed
      rcases literal_sound ended taken with ⟨value, rfl, spelled⟩
      refine ⟨.literal value, ?_, ?_⟩
      · rw [Operand.arg]
      · rw [Operand.kinds]
        exact spelled
    · split at parsed
      · next name kind =>
        cases parsed
        refine ⟨.name name, ?_, ?_⟩
        · rw [Operand.arg]
        · rw [Operand.kinds]
          exact .advance ended kind (by simp)
      · next kind =>
        have spelledOpen : Spelled [.open] ts (advance ts) := .advance ended kind (by simp)
        rcases bind_eq_ok_iff.1 parsed with ⟨⟨inner, rest⟩, parsedInner, parsed⟩
        cases parsed
        rcases enclosed_sound budget spelledOpen.1 parsedInner with ⟨inner, rfl, spelledInner⟩
        refine ⟨.enclosed inner, ?_, ?_⟩
        · rw [Operand.arg]
        · rw [Operand.kinds]
          exact spelledOpen.cons spelledInner
      · cases parsed

end

end RecordRules.Parse

import RecordRules.Proofs.Rule.Parse.Complete
import RecordRules.Proofs.Rule.Parse.Sound
import RecordRules.Proofs.Rule.Parse.Unique

/-!
# Parsing is deriving

The parser accepts exactly what the grammar derives, and the rule that it gives is the
one that the only derivation stands for.
-/

namespace RecordRules

open RecordRules.Derivation

/-! ## Chains have at least two operands -/

mutual

/-- Every chain of one operator in the rule has at least two operands. -/
def Expr.Chained : Expr → Prop
  | .and operands => 2 ≤ operands.length ∧ allChained operands
  | .or operands => 2 ≤ operands.length ∧ allChained operands
  | .ident _ => True
  | .call _ args => argsChained args
  | .eq _ value => value.Chained

/-- Every chain in these rules has. -/
def allChained : List Expr → Prop
  | [] => True
  | rule :: rules => rule.Chained ∧ allChained rules

/-- Every chain in the argument has. -/
def ArgExpr.Chained : ArgExpr → Prop
  | .expr rule => rule.Chained
  | _ => True

/-- Every chain in these arguments has. -/
def argsChained : List ArgExpr → Prop
  | [] => True
  | arg :: args => arg.Chained ∧ argsChained args

end

theorem literal_chained (value : Derivation.Constant) : value.arg.Chained := by
  cases value <;> trivial

mutual

theorem disjunction_chained (d : Disjunction) : d.expr.Chained := by
  match d with
  | .chain first [] =>
    rw [Disjunction.expr]
    exact conjunction_chained first
  | .chain first (second :: others) =>
    rw [Disjunction.expr, Expr.Chained]
    exact ⟨by simp, conjunction_chained first, conjunction_chained second, disjuncts_chained others⟩

theorem disjuncts_chained (ds : List Conjunction) : allChained (disjunctExprs ds) := by
  match ds with
  | [] => trivial
  | first :: others => exact ⟨conjunction_chained first, disjuncts_chained others⟩

theorem conjunction_chained (d : Conjunction) : d.expr.Chained := by
  match d with
  | .chain first [] =>
    rw [Conjunction.expr]
    exact primary_chained first
  | .chain first (second :: others) =>
    rw [Conjunction.expr, Expr.Chained]
    exact ⟨by simp, primary_chained first, primary_chained second, conjuncts_chained others⟩

theorem conjuncts_chained (ds : List Primary) : allChained (conjunctExprs ds) := by
  match ds with
  | [] => trivial
  | first :: others => exact ⟨primary_chained first, conjuncts_chained others⟩

theorem primary_chained (d : Primary) : d.expr.Chained := by
  match d with
  | .enclosed inner =>
    rw [Primary.expr]
    exact disjunction_chained inner
  | .name name => trivial
  | .call name args =>
    rw [Primary.expr, Expr.Chained]
    exact args_chained args
  | .comparison name value =>
    rw [Primary.expr, Expr.Chained]
    exact operand_chained value

theorem args_chained (ds : List Passed) : argsChained (argExprs ds) := by
  match ds with
  | [] => trivial
  | first :: others => exact ⟨arg_chained first, args_chained others⟩

theorem arg_chained (d : Passed) : d.arg.Chained := by
  match d with
  | .literal value =>
    rw [Passed.arg]
    exact literal_chained value
  | .rule rule =>
    rw [Passed.arg, ArgExpr.Chained]
    exact disjunction_chained rule

theorem operand_chained (d : Operand) : d.arg.Chained := by
  match d with
  | .literal value =>
    rw [Operand.arg]
    exact literal_chained value
  | .name name => trivial
  | .enclosed inner =>
    rw [Operand.arg, ArgExpr.Chained]
    exact disjunction_chained inner

end

/-! ## The parser and the grammar -/

theorem ended_append (body : List Token) {last : Token} (ending : last.kind = .ending) :
    Parse.Ended (body ++ [last]) := by
  induction body with
  | nil => exact ending
  | cons t body ih =>
    cases body with
    | nil => exact ih
    | cons next body => exact ih

/-- The ending is at hand only where nothing else is left, if no other token is one. -/
theorem eq_singleton_of_current {body taken rest : List Token} {last : Token}
    (before : ∀ t ∈ body, t.kind ≠ .ending) (split : body ++ [last] = taken ++ rest)
    (ended : Parse.Ended rest) (ending : (Parse.current rest).kind = .ending) :
    ∃ t, rest = [t] := by
  match rest with
  | [] => exact ended.elim
  | [t] => exact ⟨t, rfl⟩
  | t :: next :: rest =>
    have bodySplit : body = taken ++ t :: (next :: rest).dropLast := by
      simpa using congrArg List.dropLast split
    exact absurd ending (before t (by simp [bodySplit]))

theorem ofTokens_complete {body : List Token} {last : Token} (ending : last.kind = .ending)
    {d : Disjunction} (spells : d.kinds = body.map Token.kind) :
    Expr.ofTokens (body ++ [last]) = .ok d.expr := by
  have body_pos : 0 < body.length := by
    rcases Parse.disjunction_starts d with ⟨k, ks, kinds, -⟩
    exact Parse.length_pos_of_spells (spells.symm.trans kinds)
  have length : (body ++ [last]).length = body.length + 1 := by simp
  have enough : 4 * body.length + 4 ≤ Parse.budgetFor (body ++ [last]) := by
    rw [Parse.budgetFor, length]
    omega
  have ends : Parse.EndsRule (Parse.current [last]).kind := .inr (.inr ending)
  have parsed : Parse.disjunction (Parse.budgetFor (body ++ [last])) (body ++ [last]) =
      .ok (d.expr, [last]) :=
    Parse.disjunction_complete d spells.symm ends (List.cons_ne_nil _ _) enough
  have not_empty : (body ++ [last]).length ≠ 1 := by omega
  rw [Expr.ofTokens, if_neg not_empty, parsed]
  simp only [bind, Except.bind, Parse.expect, Parse.current_cons, ending, if_true, pure,
    Except.pure]

theorem ofTokens_sound {body : List Token} {last : Token} (before : ∀ t ∈ body, t.kind ≠ .ending)
    (ending : last.kind = .ending) {rule : Expr}
    (parsed : Expr.ofTokens (body ++ [last]) = .ok rule) :
    ∃ d : Disjunction, d.kinds = body.map Token.kind ∧ d.expr = rule := by
  rw [Expr.ofTokens] at parsed
  split at parsed
  · cases parsed
  · rcases bind_eq_ok_iff.1 parsed with ⟨⟨rule, rest⟩, parsedRule, parsed⟩
    obtain ⟨d, rfl, ⟨ended, taken, split, kinds⟩, -⟩ :=
      Parse.disjunction_sound _ (ended_append body ending) parsedRule
    rcases bind_eq_ok_iff.1 parsed with ⟨⟨⟨⟩, final⟩, ends, parsed⟩
    cases parsed
    have atEnd : (Parse.current rest).kind = .ending := by
      rw [Parse.expect] at ends
      split at ends
      · assumption
      · cases ends
    rcases eq_singleton_of_current before split ended atEnd with ⟨t, rfl⟩
    rcases List.append_inj' split rfl with ⟨rfl, -⟩
    exact ⟨d, kinds.symm, rfl⟩

/-- The parser gives a rule for tokens before their only ending if and only if the grammar
derives them; the derivation is then the only one, the rule is the one it stands for, and
each chain in it has at least two operands.  Nothing but an ending is an empty rule. -/
theorem ofTokens_eq_ok_iff_derivation {body : List Token} {last : Token}
    (before : ∀ t ∈ body, t.kind ≠ .ending) (ending : last.kind = .ending) :
    (∀ rule, Expr.ofTokens (body ++ [last]) = .ok rule ↔
      ∃ d : Disjunction, d.kinds = body.map Token.kind ∧ d.expr = rule ∧
        ∀ d' : Disjunction, d'.kinds = body.map Token.kind → d' = d) ∧
    (∀ rule, Expr.ofTokens (body ++ [last]) = .ok rule → rule.Chained) ∧
    (body = [] → Expr.ofTokens (body ++ [last]) = .error .empty) := by
  refine ⟨fun rule => ⟨fun parsed => ?_, ?_⟩, fun rule parsed => ?_, ?_⟩
  · rcases ofTokens_sound before ending parsed with ⟨d, kinds, expr⟩
    refine ⟨d, kinds, expr, fun d' kinds' => ?_⟩
    have same : d'.kinds ++ [] = d.kinds ++ [] := by rw [kinds, kinds']
    exact (Parse.disjunction_unique d' d same .nil .nil).1
  · rintro ⟨d, kinds, rfl, -⟩
    exact ofTokens_complete ending kinds
  · rcases ofTokens_sound before ending parsed with ⟨d, -, rfl⟩
    exact disjunction_chained d
  · rintro rfl
    rfl

/-- The tokens of `a || b && c` have one derivation, in which `&&` binds tighter. -/
theorem derivation_of_mixed_chain :
    (∀ t ∈ [⟨.ident "a", 0⟩, ⟨.or, 2⟩, ⟨.ident "b", 5⟩, ⟨.and, 7⟩, ⟨.ident "c", 10⟩],
      Token.kind t ≠ .ending) ∧ (Token.mk .ending 11).kind = .ending ∧
    ∃ d : Disjunction, d.kinds = [.ident "a", .or, .ident "b", .and, .ident "c"] ∧
      d.expr = .or [.ident "a", .and [.ident "b", .ident "c"]] ∧
        ∀ d' : Disjunction,
          d'.kinds = [.ident "a", .or, .ident "b", .and, .ident "c"] → d' = d := by
  have before : ∀ t ∈ [⟨.ident "a", 0⟩, ⟨.or, 2⟩, ⟨.ident "b", 5⟩, ⟨.and, 7⟩, ⟨.ident "c", 10⟩],
      Token.kind t ≠ .ending := by simp
  have ending : (Token.mk .ending 11).kind = .ending := rfl
  exact ⟨before, ending, ((ofTokens_eq_ok_iff_derivation before ending).1 _).1 rfl⟩

end RecordRules

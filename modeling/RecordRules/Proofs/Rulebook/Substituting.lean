import RecordRules.Proofs.Rule.Scanning
import RecordRules.Proofs.Rulebook.Recasting

/-!
# Literals in place of symbols

A symbol that is no validator stands for a literal.  Where its name is an argument, the literal can
be written instead: the rule is compiled to the same validator or fails with the same error
(`substituted_builds_alike`).  The two arguments reach the rulebook in different ways, the literal
as it is and the name as a name, and are the same only once the rulebook has resolved them.

The symbol must be the one with which the text is built.  A text that has been built before keeps
the symbol of that time (`substituted_builds_otherwise`).
-/

namespace RecordRules

/-- The literal that an argument is written as; there is none for a validator. -/
def Argument.literal? : Argument → Option ArgExpr
  | int value => some (.integer value)
  | float value => some (.float value)
  | str value => some (.string value)
  | bool value => some (.boolean value)
  | rule _ => none

/-! ## Trees -/

section trees

variable (name : String) (literal : ArgExpr)

mutual

/-- Some of the places where the name is an argument in the rule have the literal instead. -/
inductive Expr.Substitutes : Expr → Expr → Prop
  | and {operands operands' : List Expr} : SubstitutesAll operands operands' →
    Expr.Substitutes (.and operands) (.and operands')
  | or {operands operands' : List Expr} : SubstitutesAll operands operands' →
    Expr.Substitutes (.or operands) (.or operands')
  | ident (other : String) : Expr.Substitutes (.ident other) (.ident other)
  | call (function : String) {args args' : List ArgExpr} : SubstitutesArgs args args' →
    Expr.Substitutes (.call function args) (.call function args')
  | eq (function : String) {value value' : ArgExpr} : ArgExpr.Substitutes value value' →
    Expr.Substitutes (.eq function value) (.eq function value')

/-- Some of those in these rules have. -/
inductive SubstitutesAll : List Expr → List Expr → Prop
  | nil : SubstitutesAll [] []
  | cons {rule rule' : Expr} {rules rules' : List Expr} : Expr.Substitutes rule rule' →
    SubstitutesAll rules rules' → SubstitutesAll (rule :: rules) (rule' :: rules')

/-- Some of those in the argument have, or it is such a place itself. -/
inductive ArgExpr.Substitutes : ArgExpr → ArgExpr → Prop
  | replaced : ArgExpr.Substitutes (.expr (.ident name)) literal
  | rule {rule rule' : Expr} : Expr.Substitutes rule rule' →
    ArgExpr.Substitutes (.expr rule) (.expr rule')
  | kept (arg : ArgExpr) : ArgExpr.Substitutes arg arg

/-- Some of those in these arguments have. -/
inductive SubstitutesArgs : List ArgExpr → List ArgExpr → Prop
  | nil : SubstitutesArgs [] []
  | cons {arg arg' : ArgExpr} {args args' : List ArgExpr} : ArgExpr.Substitutes arg arg' →
    SubstitutesArgs args args' → SubstitutesArgs (arg :: args) (arg' :: args')

end

end trees

/-! ## Compilation -/

namespace Rulebook

/-- The arguments are resolved to the same one. -/
def ResolvesAlike (book : Rulebook) (serial : Nat) (a a' : Arg (List Handle)) : Prop :=
  book.lower serial a = book.lower serial a'

variable {book : Rulebook} {serial : Nat}

theorem resolvesAlike_refl (a : Arg (List Handle)) : book.ResolvesAlike serial a a :=
  rfl

theorem mapM_lower_congr {args args' : List (Arg (List Handle))}
    (alike : List.Forall₂ (book.ResolvesAlike serial) args args') :
    args.mapM (book.lower serial) = args'.mapM (book.lower serial) := by
  induction alike with
  | nil => rfl
  | cons first _ ih => rw [List.mapM_cons, List.mapM_cons, ih, first]

theorem apply_congr (function : String) {args args' : List (Arg (List Handle))}
    (alike : List.Forall₂ (book.ResolvesAlike serial) args args') :
    book.apply serial function args = book.apply serial function args' := by
  rw [apply, apply, mapM_lower_congr alike]

/-- Calls with such arguments are compiled alike. -/
theorem compileExpr_call_congr (function : String) {args args' : List ArgExpr}
    (alike : Together (List.Forall₂ (book.ResolvesAlike serial))
      (ArgExpr.lowerAll (book.builder serial) args)
      (ArgExpr.lowerAll (book.builder serial) args')) :
    book.compileExpr serial (.call function args) =
      book.compileExpr serial (.call function args') := by
  rw [compileExpr_call, compileExpr_call]
  generalize ArgExpr.lowerAll (book.builder serial) args = result at alike
  generalize ArgExpr.lowerAll (book.builder serial) args' = result' at alike
  cases alike with
  | ok are => exact apply_congr function are
  | error => rfl

/-- No function has the name, and the literal is how the symbol of the name is written. -/
def StandsFor (book : Rulebook) (name : String) (literal : ArgExpr) : Prop :=
  book.functions.get? name = none ∧
    ∃ value, book.symbols.get? name = some value ∧ value.literal? = some literal

/-- The name of a symbol and the literal are resolved to the same argument. -/
theorem StandsFor.lower {name : String} {literal : ArgExpr} (stands : book.StandsFor name literal) :
    Together (book.ResolvesAlike serial) ((ArgExpr.expr (.ident name)).lower (book.builder serial))
      (literal.lower (book.builder serial)) := by
  obtain ⟨no_function, value, symbol, written⟩ := stands
  have resolved : book.resolve serial name = .ok value := by rw [resolve, no_function, symbol]
  rw [ArgExpr.lower]
  cases value with
  | int _ | float _ | str _ | bool _ =>
    cases written
    rw [ArgExpr.lower]
    exact .ok resolved
  | rule _ => cases written

end Rulebook

theorem ident_iff_of_substitutes {name : String} {literal : ArgExpr} {rule rule' : Expr}
    (substitutes : rule.Substitutes name literal rule') (other : String) :
    rule = .ident other ↔ rule' = .ident other := by
  cases substitutes with
  | ident _ => rfl
  | and _ | or _ | call _ _ | eq _ _ => simp

section compilation

variable {book : Rulebook} {name : String} {literal : ArgExpr} (serial : Nat)

mutual

theorem compileExpr_substituted (stands : book.StandsFor name literal) {rule rule' : Expr}
    (substitutes : rule.Substitutes name literal rule') :
    book.compileExpr serial rule = book.compileExpr serial rule' := by
  match substitutes with
  | .and operands =>
    rw [Rulebook.compileExpr_and, Rulebook.compileExpr_and,
      mapM_compileExpr_substituted stands operands]
  | .or operands =>
    rw [Rulebook.compileExpr_or, Rulebook.compileExpr_or,
      mapM_compileExpr_substituted stands operands]
  | .ident _ => rfl
  | .call function args =>
    exact Rulebook.compileExpr_call_congr function (lowerAll_substituted stands args)
  | .eq function value =>
    rw [Rulebook.compileExpr_eq, Rulebook.compileExpr_eq]
    have lowered := lower_substituted stands value
    exact Rulebook.compileExpr_call_congr function
      (Rulebook.lowerAll_cons_together lowered Rulebook.lowerAll_nil_together)

theorem mapM_compileExpr_substituted (stands : book.StandsFor name literal)
    {rules rules' : List Expr}
    (substitutes : SubstitutesAll name literal rules rules') :
    rules.mapM (book.compileExpr serial) = rules'.mapM (book.compileExpr serial) := by
  match substitutes with
  | .nil => rfl
  | .cons first rest =>
    rw [List.mapM_cons, List.mapM_cons, compileExpr_substituted stands first,
      mapM_compileExpr_substituted stands rest]

theorem lower_substituted (stands : book.StandsFor name literal) {arg arg' : ArgExpr}
    (substitutes : ArgExpr.Substitutes name literal arg arg') :
    Together (book.ResolvesAlike serial) (arg.lower (book.builder serial))
      (arg'.lower (book.builder serial)) := by
  match substitutes with
  | .replaced => exact stands.lower
  | .rule inner =>
    have compiled : Together Eq (book.compileExpr serial _) (book.compileExpr serial _) :=
      .of_eq (compileExpr_substituted stands inner)
    refine Rulebook.lower_rule_together compiled (ident_iff_of_substitutes inner)
      Rulebook.resolvesAlike_refl ?_
    rintro handle _ rfl
    exact Rulebook.resolvesAlike_refl _
  | .kept _ => exact .refl Rulebook.resolvesAlike_refl _

theorem lowerAll_substituted (stands : book.StandsFor name literal) {args args' : List ArgExpr}
    (substitutes : SubstitutesArgs name literal args args') :
    Together (List.Forall₂ (book.ResolvesAlike serial))
      (ArgExpr.lowerAll (book.builder serial) args)
      (ArgExpr.lowerAll (book.builder serial) args') := by
  match substitutes with
  | .nil => exact Rulebook.lowerAll_nil_together
  | .cons first rest =>
    exact Rulebook.lowerAll_cons_together (lower_substituted stands first)
      (lowerAll_substituted stands rest)

end

end compilation

/-! ## Building -/

/-- Take a name that is no function's and the literal of the symbol with that name, and any of the
places where the name is an argument in a rule.  With the literal at these places the rule is
compiled to the same handle, or fails with the same error.  Where the same functions and symbols
stand behind a text of each of the two rules, a rulebook builds both texts alike. -/
theorem substituted_builds_alike {made : Rulebook} {name : String} {literal : ArgExpr}
    (stands : made.StandsFor name literal) {rule rule' : Expr}
    (substitutes : rule.Substitutes name literal rule') :
    (∀ serial, made.compileExpr serial rule = made.compileExpr serial rule') ∧
    ∀ text text' : String, Expr.parse text = .ok rule → Expr.parse text' = .ok rule' →
      ∀ book : Rulebook, made.Behind book text → made.Behind book text' →
        book.BuildsAlike text text' := by
  have compiled (serial : Nat) := compileExpr_substituted serial stands substitutes
  refine ⟨compiled, fun text text' parsed parsed' book behind behind' => ?_⟩
  apply Rulebook.buildsAlike_of_map_eq
  rw [behind.map_build, behind'.map_build, compile_of_parse made 0 parsed,
    compile_of_parse made 0 parsed', compiled]

theorem length_substitutes : Expr.Substitutes "limit" (.integer 5)
    (.call "len" [.expr (.ident "limit")]) (.call "len" [.integer 5]) :=
  .call "len" (.cons .replaced .nil)

theorem parse_lengthFive : Expr.parse "len(5)" = .ok (.call "len" [.integer 5]) := by
  have read : lexeme 4 '5' [')'] = .ok ⟨.integer 5, 1⟩ := by rfl
  have integer : Token.next 4 ['5', ')'] = .ok (⟨.integer 5, 4⟩, 5, [')']) :=
    Token.next_of_lexeme rfl rfl read
  have scanned : Token.scan "len(5)" =
      .ok [⟨.ident "len", 0⟩, ⟨.open, 3⟩, ⟨.integer 5, 4⟩, ⟨.close, 5⟩, ⟨.ending, 6⟩] := by
    refine Token.scanFrom_next (by rfl) (by simp) ?_
    refine Token.scanFrom_next (by rfl) (by simp) ?_
    refine Token.scanFrom_next integer (by simp) ?_
    refine Token.scanFrom_next (by rfl) (by simp) ?_
    exact Token.scanFrom_ending (by rfl) rfl
  rw [Expr.parse, scanned]
  rfl

/-- With a symbol of 5 that has always been there, `len(limit)` is built as `len(5)` is. -/
theorem substituted_builds_alike_of_length :
    let book := Rulebook.standard.addSymbol "limit" (.int 5)
    book.StandsFor "limit" (.integer 5) ∧
      book.compileExpr 1 (.call "len" [.expr (.ident "limit")]) =
        book.compileExpr 1 (.call "len" [.integer 5]) ∧
      book.BuildsAlike "len(limit)" "len(5)" := by
  intro book
  have stands : book.StandsFor "limit" (.integer 5) := ⟨rfl, .int 5, rfl, rfl⟩
  obtain ⟨compiled, built⟩ := substituted_builds_alike stands length_substitutes
  exact ⟨stands, compiled 1,
    built _ _ parse_lengthCall parse_lengthFive book ⟨rfl, rfl⟩ ⟨rfl, rfl⟩⟩

/-- A text that has been built keeps the symbol of that time.  So `len(limit)` stays `len(3)`,
although the symbol is 5 now. -/
theorem substituted_builds_otherwise :
    let early := Rulebook.standard.addSymbol "limit" (.int 3)
    let book := (early.build "len(limit)").2.addSymbol "limit" (.int 5)
    book.StandsFor "limit" (.integer 5) ∧
    (Expr.parse "len(limit)" = .ok (.call "len" [.expr (.ident "limit")]) ∧
      Expr.parse "len(5)" = .ok (.call "len" [.integer 5]) ∧
      Expr.Substitutes "limit" (.integer 5) (.call "len" [.expr (.ident "limit")])
        (.call "len" [.integer 5])) ∧
    (∃ handle handle', (book.build "len(limit)").1 = .ok handle ∧
      (book.build "len(5)").1 = .ok handle' ∧ handle.validator.rule = "len(3)" ∧
      handle'.validator.rule = "len(5)") ∧
    ¬ book.BuildsAlike "len(limit)" "len(5)" := by
  intro early book
  have compiles : early.compile 1 "len(limit)" = .ok ⟨1, .check (.lengthIs 3)⟩ := by
    rw [compile_of_parse early 1 parse_lengthCall]
    rfl
  have compiles' : (early.addSymbol "limit" (.int 5)).compile 2 "len(5)" =
      .ok ⟨2, .check (.lengthIs 5)⟩ := by
    rw [compile_of_parse _ 2 parse_lengthFive]
    rfl
  have unused : Rulebook.standard.Unused := ⟨rfl, rfl⟩
  obtain ⟨first, second⟩ := Rulebook.build_after_symbol unused (by decide) compiles compiles'
  have no_function : book.functions.get? "limit" = none := by
    change (early.build "len(limit)").2.functions.get? "limit" = none
    rw [Rulebook.functions_build]
    rfl
  have symbol : book.symbols.get? "limit" = some (.int 5) := by
    change ((early.build "len(limit)").2.symbols.insert "limit" (.int 5)).get? "limit" = _
    rw [Table.get?_insert, if_pos rfl]
  have stands : book.StandsFor "limit" (.integer 5) := ⟨no_function, .int 5, symbol, rfl⟩
  refine ⟨stands, ⟨parse_lengthCall, parse_lengthFive, length_substitutes⟩,
    ⟨_, _, first, second, by decide, by decide⟩, ?_⟩
  rw [Rulebook.BuildsAlike, first, second]
  intro alike
  exact absurd alike.rule (by decide)

end RecordRules

import RecordRules.Proofs.Rulebook.Building
import RecordRules.Proofs.Rulebook.Rendering

/-!
# Building the rule text of a validator

Let a standard rulebook build a rule whose only literals are integers that a double holds
exactly.  The rule text of the validator can be built, too, and gives a validator that acts like
it (`build_rendered`), although not always the same one.  Rulebooks remember what they have
built, so the text may have been built before.
-/

namespace RecordRules

open RecordRules.Derivation Validator

/-! ## Rules with exact integers -/

mutual

/-- The literals of the rule are integers that a double holds exactly. -/
def Expr.Exact : Expr → Prop
  | .and operands => allExact operands
  | .or operands => allExact operands
  | .ident _ => True
  | .call _ args => argsExact args
  | .eq _ value => value.Exact

/-- Those of these rules are. -/
def allExact : List Expr → Prop
  | [] => True
  | rule :: rules => rule.Exact ∧ allExact rules

/-- The argument is such a literal, or a rule whose literals are. -/
def ArgExpr.Exact : ArgExpr → Prop
  | .integer n => n.toInt.natAbs ≤ greatestExact
  | .expr rule => rule.Exact
  | _ => False

/-- Each of these arguments is. -/
def argsExact : List ArgExpr → Prop
  | [] => True
  | arg :: args => arg.Exact ∧ argsExact args

end

section rules

variable {book made : Rulebook}

/-- What a name stands for is rendered. -/
theorem rendered_named (standard : IsStandard book) (standard' : IsStandard made) {name : String}
    {w : Validator} (named : made.named name = .ok w) : Rendered book w := by
  rw [Rulebook.named, standard'.functions, standard'.symbols] at named
  split at named
  · next f found =>
    exact rendered_build standard found (List.forall_mem_nil _) named
  · cases named

theorem renderedArgument_named (standard : IsStandard book) (standard' : IsStandard made)
    {name : String} {arg : Argument} (argument : made.argumentNamed name = .ok arg) :
    RenderedArgument book arg := by
  rw [Rulebook.argumentNamed, standard'.functions, standard'.symbols] at argument
  split at argument
  · next f found =>
    cases built : f.build [] with
    | error e =>
      rw [built] at argument
      cases argument
    | ok w =>
      rw [built] at argument
      cases argument
      exact rendered_build standard found (List.forall_mem_nil _) built
  · cases argument

theorem renderedArgument_rule {rule : Expr} (not_ident : ∀ name, rule ≠ .ident name)
    {arg : Argument} (is : (ArgExpr.expr rule).argument? made = some arg)
    (rendered : ∀ {w}, rule.validator? made = some w → Rendered book w) :
    RenderedArgument book arg := by
  rw [argument?_rule not_ident] at is
  rcases Option.map_eq_some_iff.mp is with ⟨w, stands, rfl⟩
  exact rendered stands

theorem rendered_call (standard : IsStandard book) (standard' : IsStandard made) {name : String}
    {args : List ArgExpr} {w : Validator}
    (rendered : ∀ {arguments}, arguments? made args = some arguments →
      ∀ arg ∈ arguments, RenderedArgument book arg)
    (stands : (Expr.call name args).validator? made = some w) : Rendered book w := by
  rw [Expr.validator?, standard'.functions, Option.bind_eq_bind] at stands
  rcases Option.bind_eq_some_iff.mp stands with ⟨f, found, stands⟩
  rcases Option.bind_eq_some_iff.mp stands with ⟨arguments, are, stands⟩
  exact rendered_build standard found (rendered are) (ok_of_toOption stands)

mutual

theorem rendered_of_validator? (standard : IsStandard book) (standard' : IsStandard made)
    (rule : Expr) (chained : rule.Chained) (exact : rule.Exact)
    {w : Validator} (stands : rule.validator? made = some w) : Rendered book w := by
  match rule with
  | .and operands =>
    rw [Expr.validator?] at stands
    rcases Option.map_eq_some_iff.mp stands with ⟨ws, stand, rfl⟩
    obtain ⟨each, length⟩ :=
      rendered_of_validators? standard standard' operands chained.2 exact stand
    refine rendered_conj ?_ each
    rintro rfl
    have several := chained.1
    rw [← length] at several
    cases several
  | .or operands =>
    rw [Expr.validator?] at stands
    rcases Option.map_eq_some_iff.mp stands with ⟨ws, stand, rfl⟩
    obtain ⟨each, length⟩ :=
      rendered_of_validators? standard standard' operands chained.2 exact stand
    have several := chained.1
    rw [← length] at several
    exact rendered_any several each
  | .ident name =>
    rw [Expr.validator?] at stands
    exact rendered_named standard standard' (ok_of_toOption stands)
  | .call name args =>
    exact rendered_call standard standard'
      (rendered_of_arguments? standard standard' args chained exact) stands
  | .eq name value =>
    rw [validator?_eq] at stands
    refine rendered_call standard standard' (fun are => ?_) stands
    rcases arguments?_cons.mp are with ⟨argument, is, rest, none, rfl⟩
    rw [arguments?] at none
    cases none
    rw [List.forall_mem_singleton]
    exact rendered_of_argument? standard standard' value chained exact is

theorem rendered_of_validators? (standard : IsStandard book) (standard' : IsStandard made)
    (rules : List Expr) (chained : allChained rules)
    (exact : allExact rules) {ws : List Validator} (stand : validators? made rules = some ws) :
    (∀ w ∈ ws, Rendered book w) ∧ ws.length = rules.length := by
  match rules with
  | [] =>
    rw [validators?] at stand
    cases stand
    exact ⟨fun w mem => absurd mem List.not_mem_nil, rfl⟩
  | rule :: rules =>
    rcases validators?_cons.mp stand with ⟨w, stands, ws, others, rfl⟩
    obtain ⟨each, length⟩ :=
      rendered_of_validators? standard standard' rules chained.2 exact.2 others
    refine ⟨List.forall_mem_cons.mpr ⟨?_, each⟩, by rw [List.length_cons, length, List.length_cons]⟩
    exact rendered_of_validator? standard standard' rule chained.1 exact.1 stands

theorem rendered_of_argument? (standard : IsStandard book) (standard' : IsStandard made)
    (arg : ArgExpr) (chained : arg.Chained) (exact : arg.Exact)
    {argument : Argument} (is : arg.argument? made = some argument) :
    RenderedArgument book argument := by
  match arg with
  | .integer n =>
    rw [ArgExpr.argument?] at is
    cases is
    exact exact
  | .float _ => exact exact.elim
  | .string _ => exact exact.elim
  | .boolean _ => exact exact.elim
  | .expr (.ident name) =>
    rw [ArgExpr.argument?] at is
    exact renderedArgument_named standard standard' (ok_of_toOption is)
  | .expr (.and operands) =>
    exact renderedArgument_rule (by simp) is fun stands =>
      rendered_of_validator? standard standard' (.and operands) chained exact stands
  | .expr (.or operands) =>
    exact renderedArgument_rule (by simp) is fun stands =>
      rendered_of_validator? standard standard' (.or operands) chained exact stands
  | .expr (.call name args) =>
    exact renderedArgument_rule (by simp) is fun stands =>
      rendered_of_validator? standard standard' (.call name args) chained exact stands
  | .expr (.eq name value) =>
    exact renderedArgument_rule (by simp) is fun stands =>
      rendered_of_validator? standard standard' (.eq name value) chained exact stands

theorem rendered_of_arguments? (standard : IsStandard book) (standard' : IsStandard made)
    (args : List ArgExpr) (chained : argsChained args)
    (exact : argsExact args) {arguments : List Argument}
    (are : arguments? made args = some arguments) :
    ∀ arg ∈ arguments, RenderedArgument book arg := by
  match args with
  | [] =>
    rw [arguments?] at are
    cases are
    exact fun arg mem => absurd mem List.not_mem_nil
  | arg :: args =>
    rcases arguments?_cons.mp are with ⟨argument, is, arguments, others, rfl⟩
    rw [List.forall_mem_cons]
    exact ⟨rendered_of_argument? standard standard' arg chained.1 exact.1 is,
      rendered_of_arguments? standard standard' args chained.2 exact.2 others⟩

end

end rules

/-! ## Rulebooks that build rules -/

/-- The standard rulebook after building rules, or failing to. -/
def standardAfter (texts : List String) : Rulebook :=
  Rulebook.standard.performAll (texts.map .build)

theorem isStandard_build {book : Rulebook} (standard : IsStandard book) (text : String) :
    IsStandard (book.build text).2 := by
  rcases book.build_cases text with ⟨_, _, is⟩ | ⟨_, _, _, is⟩ | ⟨_, _, _, is⟩
  · rw [is]
    exact standard
  · rw [is]
    exact ⟨standard.functions, standard.symbols⟩
  · rw [is]
    exact ⟨standard.functions, standard.symbols⟩

theorem isStandard_standardAfter (texts : List String) : IsStandard (standardAfter texts) := by
  induction texts using List.reverseRecOn with
  | nil => exact ⟨rfl, rfl⟩
  | append_singleton texts text ih =>
    rw [standardAfter, List.map_append, List.map_singleton, Rulebook.performAll_concat]
    exact isStandard_build ih text

/-- What a standard rulebook builds a rule to is what such a rulebook compiles it to, now or
when it was first built. -/
theorem compile_of_build {texts : List String} {text : String} {handle : Handle}
    (built : ((standardAfter texts).build text).1 = .ok handle) :
    ∃ made serial, IsStandard made ∧ made.compile serial text = .ok handle := by
  have unused : Rulebook.standard.Unused := ⟨rfl, rfl⟩
  rcases (standardAfter texts).build_cases text with
    ⟨_, remembered, is⟩ | ⟨_, _, compiles, is⟩ | ⟨_, _, _, is⟩
  · rw [is] at built
    cases built
    have recalls := Rulebook.recalls_performAll unused (texts.map .build)
    obtain ⟨before, after, split, -, compiles⟩ :=
      Rulebook.firstBuild_of_mem unused ((recalls.remembered text _).mp remembered)
    obtain ⟨earlier, rest, -, rfl, -⟩ := List.map_eq_append_iff.mp split
    exact ⟨standardAfter earlier, _, isStandard_standardAfter earlier, compiles⟩
  · rw [is] at built
    cases built
    exact ⟨standardAfter texts, _, isStandard_standardAfter texts, compiles⟩
  · rw [is] at built
    cases built

/-- The text of a rendered validator compiles to one that acts like it. -/
theorem compile_rendered {book : Rulebook} (serial : Nat) {w : Validator}
    (rendered : Rendered book w) :
    ∃ again, book.compile serial w.rule = .ok again ∧ ActAlike again.validator w := by
  obtain ⟨d, us, written, stand, alike⟩ := rendered
  have kinds : (Disjunction.chain d []).kinds = d.kinds := by
    rw [Disjunction.kinds, disjunctKinds, List.append_nil]
  have parsed := parse_written (d := .chain d []) (kinds ▸ written)
  rw [String.ofList_toList, Disjunction.expr] at parsed
  have compiles := compile_of_validator? serial parsed (validator?_conjunction stand)
  cases result : book.compile serial w.rule with
  | error e =>
    rw [result] at compiles
    cases compiles
  | ok again =>
    rw [result] at compiles
    have same : again.validator = conj us := Except.ok.inj compiles
    exact ⟨again, rfl, same ▸ alike⟩

/-- Let a standard rulebook build a rule whose literals are integers that a double holds
exactly.  The rule text of the validator is then built as well, by this rulebook at any later
time and by any other standard rulebook, to a validator with the same rule text that
descends if the first does and gives the same outcome for every root and value. -/
theorem build_rendered {texts : List String} {text : String} {rule : Expr} {handle : Handle}
    (parsed : Expr.parse text = .ok rule) (exact : rule.Exact)
    (built : ((standardAfter texts).build text).1 = .ok handle) (texts' : List String) :
    ∃ again, ((standardAfter texts').build handle.validator.rule).1 = .ok again ∧
      ActAlike again.validator handle.validator := by
  obtain ⟨made, serial, standard, compiles⟩ := compile_of_build built
  have agrees := agrees_compileExpr made serial rule
  rw [← compile_of_parse made serial parsed, compiles] at agrees
  generalize stands : rule.validator? made = value at agrees
  generalize rule.firstError made true = err at agrees
  cases agrees with
  | ok same =>
    have rendered {book : Rulebook} (standard' : IsStandard book) :
        Rendered book handle.validator :=
      rendered_of_validator? standard' standard rule (parse_chained parsed) exact (same ▸ stands)
    -- Either the text is compiled now, or it was when it was first built.
    cases result : ((standardAfter texts').build handle.validator.rule).1 with
    | ok again =>
      obtain ⟨book, serial, standard', compiles⟩ := compile_of_build result
      obtain ⟨handle', compiles', alike⟩ := compile_rendered serial (rendered standard')
      cases compiles.symm.trans compiles'
      exact ⟨again, rfl, alike⟩
    | error e =>
      have standard' := isStandard_standardAfter texts'
      rcases (standardAfter texts').build_cases handle.validator.rule with
        ⟨_, _, is⟩ | ⟨_, _, _, is⟩ | ⟨_, _, fails, is⟩
      · rw [is] at result
        cases result
      · rw [is] at result
        cases result
      · obtain ⟨handle', compiles', -⟩ := compile_rendered _ (rendered standard')
        cases fails.symm.trans compiles'

/-- A conjunction in a conjunction: its text is built to one conjunction of three checks. -/
theorem build_rendered_of_conjunction :
    ∃ (rule : Expr) (handle : Handle),
      Expr.parse "required&&(zero&&min(5))" = .ok rule ∧ rule.Exact ∧
      ((standardAfter []).build "required&&(zero&&min(5))").1 = .ok handle ∧
      handle.validator.rule = "required && zero && min(5)" ∧
      ∃ again, ((standardAfter []).build handle.validator.rule).1 = .ok again ∧
        ActAlike again.validator handle.validator := by
  let rule : Expr := .and [.ident "required", .and [.ident "zero", .call "min" [.integer 5]]]
  have chained : rule.Chained := by
    simp [rule, Expr.Chained, allChained, argsChained, ArgExpr.Chained]
  have spellable : rule.Spellable := by
    simp only [rule, Expr.Spellable, allSpellable, argsSpellable, ArgExpr.Spellable]
    decide
  have parsed : Expr.parse "required&&(zero&&min(5))" = .ok rule :=
    parse_words chained (written_layOut (spellable_words rule spellable) fun _ => ⟨[], by simp⟩)
  have exact : rule.Exact := by
    simp only [rule, Expr.Exact, allExact, argsExact, ArgExpr.Exact]
    decide
  have compiles : (standardAfter []).compile 1 "required&&(zero&&min(5))" = .ok ⟨1, .all
      [.check .required, .all [.check .zero, .check (.atLeast (.ofInt (5 : Int64).toInt))]]⟩ := by
    rw [compile_of_parse _ 1 parsed]
    rfl
  have built : ((standardAfter []).build "required&&(zero&&min(5))").1 = .ok _ :=
    congrArg Prod.fst (Rulebook.build_of_compile rfl compiles)
  have text : (Binary.ofInt 5 : Double).text = "5" := by
    rw [← String.toList_inj, text_ofInt (by decide)]
    rfl
  exact ⟨_, _, parsed, exact, built, by simp [Validator.rule, rules, Check.rule, text],
    build_rendered parsed exact built []⟩

end RecordRules

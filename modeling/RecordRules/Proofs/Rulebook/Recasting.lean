import RecordRules.Proofs.Engine.Faithful
import RecordRules.Proofs.Rule.Recasting
import RecordRules.Proofs.Rulebook.Alike
import RecordRules.Proofs.Rulebook.Operands

/-!
# A comparison builds what the call builds

A rulebook receives a comparison as a call with one argument, so it compiles a rule as it compiles
the rule with all comparisons written as calls (`compileExpr_called`).  Rules that differ only in
which comparisons are written as calls have this form in common.

A rulebook builds two such texts to validators that act alike, or fails on both with one error
(`recast_builds_alike`), if the same functions and symbols stand behind both.  These need not be the
present ones: a text that has been built before keeps those of that time, the other one does not
have them (`recast_builds_otherwise`).
-/

namespace RecordRules

open RecordRules.Derivation

/-- A rulebook compiles a rule to what it compiles it to with all comparisons written as calls. -/
theorem compileExpr_called (book : Rulebook) (serial : Nat) (rule : Expr) :
    book.compileExpr serial rule.called = book.compileExpr serial rule := by
  have replay := replay_called (b := book.builder serial) (fun _ _ _ => rfl) rule
  simp only [Rulebook.compileExpr, Builder.build, replay]

/-! ## Some comparisons written as calls -/

theorem arg_passed (value : Operand) : value.passed.arg = value.arg := by
  cases value with
  | literal value => rw [Operand.passed, Passed.arg, Operand.arg]
  | name name => rfl
  | enclosed inner => rw [Operand.passed, Passed.arg, Operand.arg]; rfl

mutual

theorem disjunction_called {d d' : Disjunction} (recast : d.Recast d') :
    d.expr.called = d'.expr.called := by
  match recast with
  | .chain first .nil =>
    rw [Disjunction.expr, Disjunction.expr]
    exact conjunction_called first
  | .chain first (.cons second rest) =>
    rw [Disjunction.expr, Disjunction.expr, Expr.called, Expr.called, calledAll, calledAll,
      calledAll, calledAll, conjunction_called first, conjunction_called second,
      disjuncts_called rest]

theorem disjuncts_called {ds ds' : List Conjunction} (recast : RecastDisjuncts ds ds') :
    calledAll (disjunctExprs ds) = calledAll (disjunctExprs ds') := by
  match recast with
  | .nil => rfl
  | .cons first rest =>
    rw [disjunctExprs, disjunctExprs, calledAll, calledAll, conjunction_called first,
      disjuncts_called rest]

theorem conjunction_called {d d' : Conjunction} (recast : d.Recast d') :
    d.expr.called = d'.expr.called := by
  match recast with
  | .chain first .nil =>
    rw [Conjunction.expr, Conjunction.expr]
    exact primary_called first
  | .chain first (.cons second rest) =>
    rw [Conjunction.expr, Conjunction.expr, Expr.called, Expr.called, calledAll, calledAll,
      calledAll, calledAll, primary_called first, primary_called second, conjuncts_called rest]

theorem conjuncts_called {ds ds' : List Primary} (recast : RecastConjuncts ds ds') :
    calledAll (conjunctExprs ds) = calledAll (conjunctExprs ds') := by
  match recast with
  | .nil => rfl
  | .cons first rest =>
    rw [conjunctExprs, conjunctExprs, calledAll, calledAll, primary_called first,
      conjuncts_called rest]

theorem primary_called {d d' : Primary} (recast : d.Recast d') :
    d.expr.called = d'.expr.called := by
  match recast with
  | .enclosed inner =>
    rw [Primary.expr, Primary.expr]
    exact disjunction_called inner
  | .name name => rfl
  | .call name args =>
    rw [Primary.expr, Primary.expr, Expr.called, Expr.called, args_called args]
  | .comparison name value =>
    rw [Primary.expr, Primary.expr, Expr.called, Expr.called, operand_called value]
  | .called name value =>
    rw [Primary.expr, Primary.expr, Expr.called, Expr.called, argExprs, argExprs, calledArgs,
      calledArgs, arg_passed, operand_called value]

theorem args_called {ds ds' : List Passed} (recast : RecastArgs ds ds') :
    calledArgs (argExprs ds) = calledArgs (argExprs ds') := by
  match recast with
  | .nil => rfl
  | .cons first rest =>
    rw [argExprs, argExprs, calledArgs, calledArgs, arg_called first, args_called rest]

theorem arg_called {d d' : Passed} (recast : d.Recast d') : d.arg.called = d'.arg.called := by
  match recast with
  | .literal value => rfl
  | .rule inner =>
    rw [Passed.arg, Passed.arg, ArgExpr.called, ArgExpr.called, disjunction_called inner]

theorem operand_called {d d' : Operand} (recast : d.Recast d') : d.arg.called = d'.arg.called := by
  match recast with
  | .literal value => rfl
  | .name name => rfl
  | .enclosed inner =>
    rw [Operand.arg, Operand.arg, ArgExpr.called, ArgExpr.called, disjunction_called inner]

end

/-! ## Building -/

namespace Rulebook

/-- The functions and symbols of a rulebook are those with which a text is built: those of the time
when it was compiled, or else the present ones. -/
def Behind (made book : Rulebook) (text : String) : Prop :=
  match book.compiled.get? text with
  | some handle => ∃ serial, made.compile serial text = .ok handle
  | none => made.functions = book.functions ∧ made.symbols = book.symbols

/-- Both texts are built to validators that act alike, or both fail with one error. -/
def BuildsAlike (book : Rulebook) (text text' : String) : Prop :=
  match (book.build text).1, (book.build text').1 with
  | .ok handle, .ok handle' => ActAlike handle.validator handle'.validator
  | .error e, .error e' => e = e'
  | _, _ => False

theorem buildsAlike_of_map_eq {book : Rulebook} {text text' : String}
    (same : (book.build text).1.map Handle.validator = (book.build text').1.map Handle.validator) :
    book.BuildsAlike text text' := by
  rw [BuildsAlike]
  generalize (book.build text).1 = result at same
  generalize (book.build text').1 = result' at same
  cases result with
  | error e =>
    cases result' with
    | error e' => exact Except.error.inj same
    | ok handle' => cases same
  | ok handle =>
    cases result' with
    | error e' => cases same
    | ok handle' =>
      have is : handle.validator = handle'.validator := Except.ok.inj same
      change ActAlike handle.validator handle'.validator
      rw [is]
      exact ActAlike.refl _

/-- A text is built to what the functions and symbols behind it make of it. -/
theorem Behind.map_build {made book : Rulebook} {text : String} (behind : made.Behind book text) :
    (book.build text).1.map Handle.validator = (made.compile 0 text).map Handle.validator := by
  rw [Behind] at behind
  cases known : book.compiled.get? text with
  | some handle =>
    rw [known] at behind
    obtain ⟨serial, compiles⟩ := behind
    rw [build_of_remembered known, compile_validator_eq made 0 serial, compiles]
  | none =>
    rw [known] at behind
    rw [map_build_of_unknown known, ← behind.1, ← behind.2]
    exact (compile_eq_meaning rfl rfl 0 text).symm

/-- At any time of a run, the rulebook of some earlier time or of now is behind a text. -/
theorem exists_behind {start : Rulebook} (unused : start.Unused) (operations : List Operation)
    (text : String) : ∃ before after, operations = before ++ after ∧
      (start.performAll before).Behind (start.performAll operations) text := by
  have recalls := recalls_performAll unused operations
  cases known : (start.performAll operations).compiled.get? text with
  | none =>
    refine ⟨operations, [], (List.append_nil _).symm, ?_⟩
    rw [Behind, known]
    exact ⟨rfl, rfl⟩
  | some handle =>
    obtain ⟨before, after, split, -, compiles⟩ :=
      firstBuild_of_mem unused ((recalls.remembered text handle).mp known)
    refine ⟨before, _, split, ?_⟩
    rw [Behind, known]
    exact ⟨_, compiles⟩

end Rulebook

/-- Take a text that is parsed, and any of the comparisons in its derivation.  The text with these
written as calls is parsed, as the derivation with these written as calls.  Where the same
functions and symbols stand behind both texts, a rulebook builds both alike. -/
theorem recast_builds_alike {text : String} {rule : Expr} (parsed : Expr.parse text = .ok rule) :
    ∃ d : Disjunction, d.expr = rule ∧ Lexed d.kinds text.toList ∧
      ∀ d' : Disjunction, d.Recast d' →
        (∃ text', Edited d.kinds text.toList d'.kinds text') ∧
        ∀ text' : String, Edited d.kinds text.toList d'.kinds text'.toList →
          Expr.parse text' = .ok d'.expr ∧
          ∀ made book : Rulebook, made.Behind book text → made.Behind book text' →
            book.BuildsAlike text text' := by
  obtain ⟨d, rfl, lexed⟩ := lexed_of_parse parsed
  refine ⟨d, rfl, lexed, fun d' recast => ⟨exists_edited (disjunction_edits recast) lexed, ?_⟩⟩
  intro text' edited
  have parsed' := parse_lexed edited.lexed
  refine ⟨parsed', fun made book behind behind' => Rulebook.buildsAlike_of_map_eq ?_⟩
  rw [behind.map_build, behind'.map_build, compile_of_parse made 0 parsed,
    compile_of_parse made 0 parsed', ← compileExpr_called, disjunction_called recast,
    compileExpr_called]

/-! ### The length of a value -/

/-- `len==limit`. -/
def lengthComparison : Disjunction :=
  .chain (.chain (.comparison "len" (.name "limit")) []) []

/-- `len(limit)`. -/
def lengthCall : Disjunction :=
  .chain (.chain (.call "len" [(Operand.name "limit").passed]) []) []

theorem lengthCall_recast : lengthComparison.Recast lengthCall :=
  .chain (.chain (.called "len" (.name "limit")) .nil) .nil

theorem word_limit : Word (.ident "limit") 'l' ['i', 'm', 'i', 't'] [] :=
  ⟨by decide, fun _ => rfl⟩

theorem word_equal : Word .equal '=' ['='] "limit".toList :=
  ⟨by decide, fun _ => rfl⟩

theorem word_length : Word (.ident "len") 'l' ['e', 'n'] "==limit".toList :=
  ⟨by decide, fun _ => rfl⟩

theorem lengthComparison_lexed : Lexed lengthComparison.kinds "len==limit".toList := by
  have blank : ∀ c ∈ ([] : List Char), isBlank c = true := List.forall_mem_nil _
  exact .cons blank word_length (.cons blank word_equal (.cons blank word_limit (.nil blank)))

theorem lengthCall_edited :
    Edited lengthComparison.kinds "len==limit".toList lengthCall.kinds "len(limit)".toList := by
  have blank : ∀ c ∈ ([] : List Char), isBlank c = true := List.forall_mem_nil _
  exact .keep blank word_length
    (.opened blank word_equal (.keep blank word_limit (.closed (.nil blank))))

theorem parse_lengthComparison :
    Expr.parse "len==limit" = .ok (.eq "len" (.expr (.ident "limit"))) :=
  parse_lexed lengthComparison_lexed

theorem parse_lengthCall :
    Expr.parse "len(limit)" = .ok (.call "len" [.expr (.ident "limit")]) :=
  parse_lexed lengthCall_edited.lexed

/-- With nothing registered in between, `len(limit)` is built as `len==limit` is. -/
theorem recast_builds_alike_of_length :
    Expr.parse "len==limit" = .ok (.eq "len" (.expr (.ident "limit"))) ∧
      (Rulebook.standard.addSymbol "limit" (.int 3)).BuildsAlike "len==limit" "len(limit)" := by
  obtain ⟨d, -, lexed, alike⟩ := recast_builds_alike parse_lengthComparison
  obtain rfl := derivation_unique lexed lengthComparison_lexed
  obtain ⟨-, built⟩ := (alike lengthCall lengthCall_recast).2 "len(limit)" lengthCall_edited
  exact ⟨parse_lengthComparison, built _ _ ⟨rfl, rfl⟩ ⟨rfl, rfl⟩⟩

/-- A text that has been built keeps the symbol of that time.  So `len==limit` stays `len(3)`,
where `len(limit)` is built only now and is `len(5)`. -/
theorem recast_builds_otherwise :
    let early := Rulebook.standard.addSymbol "limit" (.int 3)
    let book := (early.build "len==limit").2.addSymbol "limit" (.int 5)
    (Expr.parse "len==limit" = .ok lengthComparison.expr ∧ lengthComparison.Recast lengthCall ∧
      Edited lengthComparison.kinds "len==limit".toList lengthCall.kinds "len(limit)".toList) ∧
    (∃ handle handle', (book.build "len==limit").1 = .ok handle ∧
      (book.build "len(limit)").1 = .ok handle' ∧ handle.validator.rule = "len(3)" ∧
      handle'.validator.rule = "len(5)") ∧
    ¬ book.BuildsAlike "len==limit" "len(limit)" := by
  intro early book
  have compiles : early.compile 1 "len==limit" = .ok ⟨1, .check (.lengthIs 3)⟩ := by
    rw [compile_of_parse early 1 parse_lengthComparison]
    rfl
  let before : Handle := ⟨1, .check (.lengthIs 3)⟩
  have is : book = ({ early with
      parses := 1, compiled := Memo.empty.remember "len==limit" before } : Rulebook).addSymbol
        "limit" (.int 5) := by
    change (early.build "len==limit").2.addSymbol "limit" (.int 5) = _
    rw [Rulebook.build_of_compile rfl compiles]
    rfl
  have compiles' : book.compile (book.parses + 1) "len(limit)" =
      .ok ⟨2, .check (.lengthIs 5)⟩ := by
    rw [compile_of_parse book _ parse_lengthCall, is]
    rfl
  have known : book.compiled.get? "len==limit" = some before := by
    rw [is]
    rfl
  have unknown : book.compiled.get? "len(limit)" = none := by
    rw [is]
    rfl
  have first := Rulebook.build_of_remembered known
  have second := Rulebook.build_of_compile unknown compiles'
  refine ⟨⟨parse_lengthComparison, lengthCall_recast, lengthCall_edited⟩,
    ⟨_, _, congrArg Prod.fst first, congrArg Prod.fst second, by decide, by decide⟩, ?_⟩
  rw [Rulebook.BuildsAlike, first, second]
  intro alike
  exact absurd alike.rule (by decide)

end RecordRules

import RecordRules.Proofs.Rulebook.Compilation
import RecordRules.Proofs.Table

/-!
# Compiled rules check what rules say

Running the validator of a rule is evaluating the rule: the outcome is the same, and so
are the checks that are made, whatever making a check does besides.
-/

namespace RecordRules

open Validator

/-! ## Running combined validators -/

section running

variable {m : Type → Type} [Monad m] {r : Runner m} {root : Option Value}

theorem run_wrap (c : Container) (w : Validator) (v : Value) :
    (c.wrap w).run r root v = c.each (w.run r root) v := by
  cases c with
  | items =>
    rw [Container.wrap, run]
    unfold Container.each
    cases v.indirect.view <;> rfl
  | parts part =>
    rw [Container.wrap, run]
    unfold Container.each
    cases v.indirect.view <;> rfl

variable [LawfulMonad m]

/-- A computation whose outcome is looked at and passed on. -/
theorem bind_outcome (x : m Outcome) :
    (do match ← x with
        | .ok () => pure (.ok ())
        | .error e => return .error e) = x := by
  conv_rhs => rw [← bind_pure x]
  congr 1
  funext outcome
  cases outcome <;> rfl

/-- A single validator makes no difference to a conjunction of it. -/
theorem run_conj (ws : List Validator) (v : Value) :
    (conj ws).run r root v = runAll r root ws v := by
  match ws with
  | [w] =>
    rw [runAll]
    simp only [runAll]
    exact (bind_outcome _).symm
  | [] | _ :: _ :: _ => rw [conj, run]; simp

end running

/-- A name that is a validator as an argument is that validator. -/
theorem named_of_argumentNamed {book : Rulebook} {name : String} {arg : Argument} {w : Validator}
    (argument : book.argumentNamed name = .ok arg) (is : arg.validator? = some w) :
    book.named name = .ok w := by
  unfold Rulebook.argumentNamed at argument
  unfold Rulebook.named
  revert argument
  cases book.functions.get? name with
  | some f =>
    dsimp only
    cases f.build [] with
    | error e => intro argument; cases argument
    | ok u => intro argument; cases argument; cases is; rfl
  | none =>
    cases book.symbols.get? name with
    | none => intro argument; cases argument
    | some value =>
      intro argument
      cases argument
      cases arg with
      | rule handle => cases is; rfl
      | int _ | float _ | str _ | bool _ => cases is

/-! ## Evaluation, by induction -/

section evaluation

variable {m : Type → Type} [Monad m] (book : Rulebook) (r : Runner m) (root : Option Value)
  (v : Value)

mutual

theorem run_validator? [LawfulMonad m] {rule : Expr} {w : Validator}
    (stands : rule.validator? book = some w) :
    w.run r root v = rule.evaluate book r root v := by
  match rule with
  | .and operands =>
    rw [Expr.validator?] at stands
    rcases Option.map_eq_some_iff.mp stands with ⟨ws, stand, rfl⟩
    rw [run_conj, Expr.evaluate]
    exact runAll_validators? stand
  | .or operands =>
    rw [Expr.validator?] at stands
    rcases Option.map_eq_some_iff.mp stands with ⟨ws, stand, rfl⟩
    rw [run, Expr.evaluate]
    exact runAny_validators? stand fun _ => rfl
  | .ident name =>
    rw [Expr.validator?] at stands
    rw [Expr.evaluate, stands, runCheck]
  | .call name args => rw [Expr.evaluate, stands, runCheck]
  | .eq name value => rw [Expr.evaluate, stands, runCheck]

theorem runAll_validators? [LawfulMonad m] {rules : List Expr} {ws : List Validator}
    (stand : validators? book rules = some ws) :
    runAll r root ws v = evaluateAll book r root v rules := by
  match rules with
  | [] =>
    rw [validators?] at stand
    cases stand
    rw [runAll, evaluateAll]
  | rule :: rules =>
    rcases validators?_cons.mp stand with ⟨w, first, ws, rest, rfl⟩
    rw [runAll, evaluateAll, run_validator? first]
    congr 1
    funext outcome
    cases outcome with
    | ok _ => exact runAll_validators? rest
    | error e => rfl

theorem runAny_validators? [LawfulMonad m] {rules : List Expr} {ws : List Validator}
    {soFar : Outcome} (stand : validators? book rules = some ws)
    (none : rules = [] → soFar = .ok ()) :
    runAny r root ws soFar v = evaluateAny book r root v rules := by
  match rules with
  | [] =>
    rw [validators?] at stand
    cases stand
    rw [runAny, evaluateAny, none rfl]
  | [rule] =>
    rcases validators?_cons.mp stand with ⟨w, first, ws, rest, rfl⟩
    rw [validators?] at rest
    cases rest
    rw [evaluateAny, ← run_validator? first]
    simp only [runAny]
    exact bind_outcome _
  | rule :: second :: rules =>
    rcases validators?_cons.mp stand with ⟨w, first, ws, rest, rfl⟩
    rw [runAny, evaluateAny, run_validator? first]
    congr 1
    funext outcome
    cases outcome with
    | ok _ => rfl
    | error e => exact runAny_validators? rest (by simp)

end

/-- A rule among arguments that are validators means its own evaluation. -/
theorem run_argument [LawfulMonad m] {rule : Expr} {arg : Argument} {w : Validator}
    (argument : (ArgExpr.expr rule).argument? book = some arg) (is : arg.validator? = some w) :
    w.run r root v = rule.evaluate book r root v := by
  refine run_validator? book r root v ?_
  by_cases ident : ∃ name, rule = .ident name
  · obtain ⟨name, rfl⟩ := ident
    rw [ArgExpr.argument?] at argument
    cases found : book.argumentNamed name with
    | error e => rw [found] at argument; cases argument
    | ok a =>
      rw [found] at argument
      cases argument
      rw [Expr.validator?, named_of_argumentNamed found is]
      rfl
  · rw [argument?_rule fun name same => ident ⟨name, same⟩] at argument
    rcases Option.map_eq_some_iff.mp argument with ⟨u, stands, rfl⟩
    cases is
    exact stands

/-- So do several, one after the other. -/
theorem runAll_arguments [LawfulMonad m] {rules : List Expr} {args : List Argument}
    {ws : List Validator} (arguments : arguments? book (rules.map .expr) = some args)
    (are : args.map Argument.validator? = ws.map some) :
    runAll r root ws v = evaluateAll book r root v rules := by
  induction rules generalizing args ws with
  | nil =>
    rw [List.map_nil, arguments?] at arguments
    cases arguments
    cases ws with
    | nil => rw [runAll, evaluateAll]
    | cons w ws => cases are
  | cons rule rules ih =>
    rw [List.map_cons] at arguments
    rcases arguments?_cons.mp arguments with ⟨arg, first, args, rest, rfl⟩
    cases ws with
    | nil => cases are
    | cons w ws =>
      rw [List.map_cons, List.map_cons, List.cons.injEq] at are
      rw [runAll, evaluateAll, run_argument book r root v first are.1]
      congr 1
      funext outcome
      cases outcome with
      | ok _ => exact ih rest are.2
      | error e => rfl

end evaluation

/-! ## Containers -/

/-- Arguments that can be taken one by one are all of the type that is asked for. -/
theorem map_read_of_take {α : Type} {read : Argument → Option α} {expected function : String}
    {args : List Argument} {xs : List α}
    (taken : (List.range args.length).mapM (Arguments.take read expected function args) = .ok xs) :
    args.map read = xs.map some := by
  have each := mapM_eq_ok_iff.mp taken
  have length : args.length = xs.length := by simpa using each.length_eq
  refine List.ext_getElem (by simpa using length) fun i inArgs inXs => ?_
  rcases List.forall₂_iff_get.mp each with ⟨-, takes⟩
  have take := takes i (by simpa using inArgs) (by simpa using inXs)
  simp only [List.length_map] at inArgs inXs
  simp only [List.get_eq_getElem, List.getElem_range, Arguments.take,
    List.getElem?_eq_getElem inArgs] at take
  rw [List.getElem_map, List.getElem_map]
  cases found : read args[i] with
  | none => rw [found] at take; cases take
  | some x => rw [found] at take; cases take; rfl

theorem build_container {c : Container} {args : List Argument} {w : Validator}
    (built : c.function.build args = .ok w) :
    ∃ ws, w = c.wrap (.conj ws) ∧ args.map Argument.validator? = ws.map some := by
  rcases bind_eq_ok_iff.mp built with ⟨_, _, built⟩
  rcases bind_eq_ok_iff.mp built with ⟨ws, taken, built⟩
  cases built
  exact ⟨ws, rfl, map_read_of_take taken⟩

/-- The standard rulebook finds standard functions, by their names. -/
theorem mem_standard {name : String} {f : Function}
    (known : Rulebook.standard.functions.get? name = some f) :
    f ∈ Function.standard ∧ f.name = name := by
  rcases Table.mem_insertAll (Table.get?_eq_some_iff.mp known) with mem | mem
  · cases mem
  · obtain ⟨f', listed, same⟩ := List.mem_map.mp mem
    cases same
    exact ⟨listed, rfl⟩

/-- Rules find the functions for containers in the standard rulebook. -/
theorem container_standard (c : Container) :
    Rulebook.standard.functions.get? c.name = some c.function := by
  cases c with
  | items => rfl
  | parts part => cases part <;> rfl

/-- A call for the parts of a value evaluates the rules among its arguments on each part. -/
theorem evaluate_container {book : Rulebook} {c : Container}
    (known : book.functions.get? c.name = some c.function) {rules : List Expr} {w : Validator}
    (stands : (Expr.call c.name (rules.map .expr)).validator? book = some w)
    {m : Type → Type} [Monad m] [LawfulMonad m] (r : Runner m) (root : Option Value) (v : Value) :
    (Expr.call c.name (rules.map .expr)).evaluate book r root v =
      c.each (fun part => evaluateAll book r root part rules) v := by
  rw [Expr.evaluate, stands, runCheck]
  rw [Expr.validator?, known, Option.bind_eq_bind, Option.bind_some] at stands
  rcases Option.bind_eq_some_iff.mp stands with ⟨args, arguments, stands⟩
  cases built : c.function.build args with
  | error e => rw [built] at stands; cases stands
  | ok u =>
    rw [built] at stands
    cases stands
    rcases build_container built with ⟨ws, rfl, are⟩
    rw [run_wrap]
    congr 1
    funext part
    rw [run_conj]
    exact runAll_arguments book r root part arguments are

/-! ## Compilation preserves meaning -/

theorem compile_of_parse (book : Rulebook) (serial : Nat) {text : String} {rule : Expr}
    (parsed : Expr.parse text = .ok rule) :
    book.compile serial text = book.compileExpr serial rule := by
  rw [Rulebook.compile, parsed]

/-- A rule that stands for a validator compiles to it. -/
theorem compile_of_validator? {book : Rulebook} (serial : Nat) {text : String} {rule : Expr}
    (parsed : Expr.parse text = .ok rule) {w : Validator} (stands : rule.validator? book = some w) :
    (book.compile serial text).map Handle.validator = .ok w := by
  have agrees := agrees_compileExpr book serial rule
  rw [stands, ← compile_of_parse book serial parsed] at agrees
  generalize book.compile serial text = result at agrees ⊢
  generalize rule.firstError book true = err at agrees
  cases agrees with
  | ok same => exact congrArg Except.ok same

/-- A rule that compiles checks what it says, and so does each rule among the arguments of
its functions, on each part of a value if the function is one for containers.  A rule that
does not compile fails with the error of the first place that cannot be built. -/
theorem compile_means_evaluate (book : Rulebook) (serial : Nat) {text : String} {rule : Expr}
    (parsed : Expr.parse text = .ok rule) :
    (∀ handle, book.compile serial text = .ok handle →
      ∀ (m : Type → Type) [Monad m] [LawfulMonad m] (r : Runner m) (root : Option Value)
        (v : Value), handle.validator.run r root v = rule.evaluate book r root v) ∧
    (∀ e, book.compile serial text = .error e ↔ rule.firstError book true = some e) ∧
    (∀ (inner : Expr) (arg : Argument) (w : Validator),
      (ArgExpr.expr inner).argument? book = some arg → arg.validator? = some w →
      ∀ (m : Type → Type) [Monad m] [LawfulMonad m] (r : Runner m) (root : Option Value)
        (v : Value), w.run r root v = inner.evaluate book r root v) ∧
    (∀ c : Container, book.functions.get? c.name = some c.function →
      ∀ (rules : List Expr) (w : Validator),
        (Expr.call c.name (rules.map .expr)).validator? book = some w →
      ∀ (m : Type → Type) [Monad m] [LawfulMonad m] (r : Runner m) (root : Option Value)
        (v : Value), (Expr.call c.name (rules.map .expr)).evaluate book r root v =
          c.each (fun part => evaluateAll book r root part rules) v) := by
  have agrees := agrees_compileExpr book serial rule
  rw [← compile_of_parse book serial parsed] at agrees
  refine ⟨fun handle built m _ _ r root v => ?_, fun e => ?_, ?_, ?_⟩
  · rw [built] at agrees
    generalize stands : rule.validator? book = value at agrees
    generalize rule.firstError book true = err at agrees
    cases agrees with
    | ok same => rw [same, run_validator? book r root v stands]
  · generalize book.compile serial text = result at agrees ⊢
    generalize rule.validator? book = value at agrees
    generalize rule.firstError book true = err at agrees ⊢
    cases agrees with
    | ok _ =>
      constructor
      · intro failed; cases failed
      · intro failed; cases failed
    | error =>
      constructor
      · intro failed; cases failed; rfl
      · intro failed; cases failed; rfl
  · intro inner arg w argument is m _ _ r root v
    exact run_argument book r root v argument is
  · intro c known rules w stands m _ _ r root v
    exact evaluate_container known stands r root v

/-- A conjunction of a call for elements with a name that nothing stands for. -/
theorem compile_means_evaluate_of_conjunction :
    Expr.parse "array(zero)&&x" = .ok (.and [.call "array" [.expr (.ident "zero")], .ident "x"]) ∧
      Rulebook.standard.compile 1 "array(zero)&&x" = .error (.unknown "x") ∧
      ∀ w, (Expr.call "array" [.expr (.ident "zero")]).validator? .standard = some w →
        ∀ (m : Type → Type) [Monad m] [LawfulMonad m] (r : Runner m) (root : Option Value)
          (v : Value), (Expr.call "array" [.expr (.ident "zero")]).evaluate .standard r root v =
            Container.items.each (fun part => evaluateAll .standard r root part [.ident "zero"])
              v := by
  have scanned : Token.scan "array(zero)&&x" = .ok [⟨.ident "array", 0⟩, ⟨.open, 5⟩,
      ⟨.ident "zero", 6⟩, ⟨.close, 10⟩, ⟨.and, 11⟩, ⟨.ident "x", 13⟩, ⟨.ending, 14⟩] := by
    iterate 6 refine Token.scanFrom_next (by rfl) (by simp) ?_
    exact Token.scanFrom_ending (by rfl) rfl
  have parsed : Expr.parse "array(zero)&&x" =
      .ok (.and [.call "array" [.expr (.ident "zero")], .ident "x"]) := by
    rw [Expr.parse, scanned]
    rfl
  have means := compile_means_evaluate .standard 1 parsed
  exact ⟨parsed, (means.2.1 _).mpr rfl,
    means.2.2.2 .items (container_standard .items) [.ident "zero"]⟩

/-- A bare name as an argument is settled after the name of the function, so that the error
is not that of the first place from left to right with arguments before calls. -/
theorem compile_unknown_function_first :
    Expr.parse "nofn(nosym)" = .ok (.call "nofn" [.expr (.ident "nosym")]) ∧
      Rulebook.standard.compile 1 "nofn(nosym)" = .error (.unknown "nofn") ∧
      (Expr.call "nofn" [.expr (.ident "nosym")]).firstError .standard false =
        some (.unknown "nosym") ∧
      BuildError.unknown "nofn" ≠ .unknown "nosym" := by
  have scanned : Token.scan "nofn(nosym)" = .ok [⟨.ident "nofn", 0⟩, ⟨.open, 4⟩,
      ⟨.ident "nosym", 5⟩, ⟨.close, 10⟩, ⟨.ending, 11⟩] := by
    iterate 4 refine Token.scanFrom_next (by rfl) (by simp) ?_
    exact Token.scanFrom_ending (by rfl) rfl
  have parsed : Expr.parse "nofn(nosym)" = .ok (.call "nofn" [.expr (.ident "nosym")]) := by
    rw [Expr.parse, scanned]
    rfl
  refine ⟨parsed, ?_, rfl, by decide⟩
  rw [compile_of_parse .standard 1 parsed]
  rfl

end RecordRules

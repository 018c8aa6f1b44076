import RecordRules.Proofs.Number.Whole
import RecordRules.Proofs.Rule.Printing
import RecordRules.Proofs.Rulebook.Alike
import RecordRules.Proofs.Table

/-!
# The rule text of a validator

A validator knows a rule text.  `Rendered` says that this text is a rule for a validator that
acts like it.  Here is how each operator and each function of the standard rulebook keeps that: a
conjunction in a conjunction is written without parentheses, a disjunction always with
them, several arguments that are validators as one conjunction, and a number with the
digits of the integer that it was made from.

Text formats and other names without arguments are written as names, and functions of
texts are not made from the arguments that are considered here.
-/

namespace RecordRules

open RecordRules.Derivation Validator

theorem toList_intercalate_cons (separator text : String) (texts : List String) :
    (separator.intercalate (text :: texts)).toList =
      text.toList ++ texts.flatMap fun other => separator.toList ++ other.toList := by
  induction texts generalizing text with
  | nil => simp
  | cons other texts ih =>
    rw [String.intercalate_cons_cons, String.toList_append, String.toList_append, ih,
      List.flatMap_cons, List.append_assoc, List.append_assoc]

/-! ## What is rendered -/

/-- The operands of a chain of `&&`. -/
def conjunctionOperands : Conjunction → List Expr
  | .chain first rest => first.expr :: conjunctExprs rest

/-- The rule text of the validator is a chain of `&&` whose operands stand for validators
that together act like it. -/
def Rendered (book : Rulebook) (w : Validator) : Prop :=
  ∃ (d : Conjunction) (us : List Validator), Written d.kinds w.rule.toList ∧
    validators? book (conjunctionOperands d) = some us ∧ ActAlike (conj us) w

section rendering

variable {book : Rulebook}

theorem validators?_singleton {rule : Expr} {us : List Validator}
    (stand : validators? book [rule] = some us) :
    ∃ u, us = [u] ∧ rule.validator? book = some u := by
  rcases validators?_cons.mp stand with ⟨u, stands, rest, none, rfl⟩
  rw [validators?] at none
  cases none
  exact ⟨u, rfl, stands⟩

theorem validators?_append {rules rules' : List Expr} {us us' : List Validator}
    (stand : validators? book rules = some us) (stand' : validators? book rules' = some us') :
    validators? book (rules ++ rules') = some (us ++ us') := by
  induction rules generalizing us with
  | nil =>
    rw [validators?] at stand
    cases stand
    exact stand'
  | cons rule rules ih =>
    rcases validators?_cons.mp stand with ⟨u, first, us, rest, rfl⟩
    exact validators?_cons.mpr ⟨u, first, us ++ us', ih rest, rfl⟩

theorem ne_nil_of_validators? {d : Conjunction} {us : List Validator}
    (stand : validators? book (conjunctionOperands d) = some us) : us ≠ [] := by
  obtain ⟨first, rest⟩ := d
  rcases validators?_cons.mp stand with ⟨u, -, us, -, rfl⟩
  exact List.cons_ne_nil _ _

/-- A chain stands for the conjunction of what its operands stand for. -/
theorem validator?_conjunction {d : Conjunction} {us : List Validator}
    (stand : validators? book (conjunctionOperands d) = some us) :
    d.expr.validator? book = some (conj us) := by
  match d with
  | .chain first [] =>
    obtain ⟨u, rfl, stands⟩ := validators?_singleton stand
    rw [Conjunction.expr]
    exact stands
  | .chain first (second :: rest) =>
    rw [conjunctionOperands, conjunctExprs] at stand
    rw [Conjunction.expr, Expr.validator?, stand, Option.map_some]

theorem rendered_of_primary {w u : Validator} (d : Primary)
    (written : Written d.kinds w.rule.toList) (stands : d.expr.validator? book = some u)
    (alike : ActAlike u w) : Rendered book w := by
  refine ⟨.chain d [], [u], ?_, validators?_cons.mpr ⟨u, stands, [], ?_, rfl⟩, alike⟩
  · rwa [Conjunction.kinds, conjunctKinds, List.append_nil]
  · rw [conjunctExprs, validators?]

/-! ### Conjunctions -/

theorem conjunctKinds_append (ds : List Primary) (d : Primary) (ds' : List Primary) :
    conjunctKinds (ds ++ d :: ds') =
      conjunctKinds ds ++ .and :: (d.kinds ++ conjunctKinds ds') := by
  induction ds with
  | nil => rw [List.nil_append, conjunctKinds, conjunctKinds, List.nil_append]
  | cons first ds ih =>
    rw [List.cons_append, conjunctKinds, conjunctKinds, ih, List.cons_append, List.append_assoc]

theorem conjunctExprs_append (ds ds' : List Primary) :
    conjunctExprs (ds ++ ds') = conjunctExprs ds ++ conjunctExprs ds' := by
  induction ds with
  | nil => rw [List.nil_append, conjunctExprs, List.nil_append]
  | cons first ds ih => rw [List.cons_append, conjunctExprs, conjunctExprs, ih, List.cons_append]

theorem rendered_cons {w : Validator} {ws : List Validator} (first : Rendered book w)
    (rest : Rendered book (conj ws)) (more : ws ≠ []) : Rendered book (conj (w :: ws)) := by
  obtain ⟨⟨p, ps⟩, us, written, stand, alike⟩ := first
  obtain ⟨⟨p', ps'⟩, us', written', stand', alike'⟩ := rest
  refine ⟨.chain p (ps ++ p' :: ps'), us ++ us', ?_, ?_, alike_conj_append alike alike'
    (ne_nil_of_validators? stand) (ne_nil_of_validators? stand') more⟩
  · have text : (conj (w :: ws)).rule.toList =
        w.rule.toList ++ ([' ', '&', '&', ' '] ++ (conj ws).rule.toList) := by
      rw [rule_conj, rules, String.intercalate_cons_of_ne_nil (rules_ne_nil more), rule_conj]
      simp
    have kinds : (Conjunction.chain p (ps ++ p' :: ps')).kinds =
        (Conjunction.chain p ps).kinds ++ ([.and] ++ (Conjunction.chain p' ps').kinds) := by
      rw [Conjunction.kinds, Conjunction.kinds, Conjunction.kinds, conjunctKinds_append,
        List.append_assoc, List.singleton_append]
    rw [text, kinds]
    exact written_append written (written_append (written_spaced (k := .and) trivial) written')
  · have operands : conjunctionOperands (.chain p (ps ++ p' :: ps')) =
        conjunctionOperands (.chain p ps) ++ conjunctionOperands (.chain p' ps') := by
      rw [conjunctionOperands, conjunctionOperands, conjunctionOperands, conjunctExprs_append,
        conjunctExprs, List.cons_append]
    rw [operands]
    exact validators?_append stand stand'

theorem rendered_conj {ws : List Validator} (some : ws ≠ []) (each : ∀ w ∈ ws, Rendered book w) :
    Rendered book (conj ws) := by
  induction ws with
  | nil => exact absurd rfl some
  | cons w ws ih =>
    rcases List.forall_mem_cons.mp each with ⟨first, others⟩
    cases ws with
    | nil => exact first
    | cons second ws =>
      have more : second :: ws ≠ [] := List.cons_ne_nil _ _
      exact rendered_cons first (ih more others) more

/-! ### Disjunctions -/

/-- The further operands of a chain of `||`. -/
theorem rendered_disjuncts {ws : List Validator} (each : ∀ w ∈ ws, Rendered book w) :
    ∃ (ds : List Conjunction) (us : List Validator),
      Written (disjunctKinds ds) ((rules ws).flatMap fun text => " || ".toList ++ text.toList) ∧
        validators? book (disjunctExprs ds) = some us ∧ List.Forall₂ ActAlike us ws := by
  induction ws with
  | nil =>
    refine ⟨[], [], ?_, by rw [disjunctExprs, validators?], .nil⟩
    rw [disjunctKinds, rules]
    exact .nil (by simp)
  | cons w ws ih =>
    rcases List.forall_mem_cons.mp each with ⟨⟨d, us, written, stand, alike⟩, others⟩
    obtain ⟨ds, us', written', stand', alike'⟩ := ih others
    refine ⟨d :: ds, conj us :: us', ?_, ?_, .cons alike alike'⟩
    · rw [disjunctKinds, rules, List.flatMap_cons, List.append_assoc]
      exact written_append (written_spaced (k := .or) trivial) (written_append written written')
    · rw [disjunctExprs]
      exact validators?_cons.mpr ⟨_, validator?_conjunction stand, us', stand', rfl⟩

/-- Words in parentheses. -/
theorem written_enclosed {ks : List TokenKind} {text : List Char} (written : Written ks text) :
    Written (.open :: (ks ++ [.close])) ('(' :: (text ++ [')'])) :=
  written_cons (k := .open) trivial
    (written_append written (written_singleton (k := .close) trivial))

theorem rendered_any {ws : List Validator} (several : 2 ≤ ws.length)
    (each : ∀ w ∈ ws, Rendered book w) : Rendered book (any ws) := by
  match ws, several with
  | w :: second :: ws, _ =>
    rcases List.forall_mem_cons.mp each with ⟨⟨d, us, written, stand, alike⟩, others⟩
    obtain ⟨ds, us', written', stand', alike'⟩ := rendered_disjuncts others
    match ds with
    | [] =>
      rw [disjunctExprs, validators?] at stand'
      cases stand'
      cases alike'
    | d' :: ds =>
      refine rendered_of_primary (.enclosed (.chain d (d' :: ds))) (u := any (conj us :: us')) ?_ ?_
        (alike_any (.cons alike alike'))
      · have text : (any (w :: second :: ws)).rule.toList =
            '(' :: (w.rule.toList ++ ((rules (second :: ws)).flatMap fun text =>
              " || ".toList ++ text.toList) ++ [')']) := by
          rw [rule, rules, String.toList_append, String.toList_append, toList_intercalate_cons]
          rfl
        rw [text, Primary.kinds, Disjunction.kinds]
        exact written_enclosed (written_append written written')
      · rw [Primary.expr, Disjunction.expr, Expr.validator?]
        rw [disjunctExprs] at stand'
        rw [validators?_cons.mpr ⟨_, validator?_conjunction stand, us', stand', rfl⟩,
          Option.map_some]

/-! ### Calls -/

/-- A name that is a validator is one as an argument, too. -/
theorem argumentNamed_of_named {name : String} {w : Validator} (named : book.named name = .ok w) :
    ∃ arg, book.argumentNamed name = .ok arg ∧ arg.validator? = some w := by
  unfold Rulebook.named at named
  unfold Rulebook.argumentNamed
  revert named
  cases book.functions.get? name with
  | some f =>
    dsimp only
    cases f.build [] with
    | error e => intro named; cases named
    | ok u => intro named; cases named; exact ⟨_, rfl, rfl⟩
  | none =>
    cases book.symbols.get? name with
    | none => intro named; cases named
    | some value =>
      intro named
      cases value with
      | rule handle => cases named; exact ⟨_, rfl, rfl⟩
      | int _ | float _ | str _ | bool _ => cases named

/-- What a rule stands for is also an argument. -/
theorem argument_of_validator? {rule : Expr} {w : Validator}
    (stands : rule.validator? book = some w) :
    ∃ arg, (ArgExpr.expr rule).argument? book = some arg ∧ arg.validator? = some w := by
  by_cases ident : ∃ name, rule = .ident name
  · obtain ⟨name, rfl⟩ := ident
    rw [Expr.validator?] at stands
    obtain ⟨arg, argument, is⟩ := argumentNamed_of_named (ok_of_toOption stands)
    exact ⟨arg, by rw [ArgExpr.argument?, argument]; rfl, is⟩
  · rw [argument?_rule fun name same => ident ⟨name, same⟩, stands]
    exact ⟨.rule ⟨0, w⟩, rfl, rfl⟩

theorem validator?_call {name : String} {f : Function} (known : book.functions.get? name = some f)
    {args : List ArgExpr} {arguments : List Argument} {w : Validator}
    (are : arguments? book args = some arguments) (built : f.build arguments = .ok w) :
    (Expr.call name args).validator? book = some w := by
  rw [Expr.validator?, known, Option.bind_eq_bind, Option.bind_some, are, Option.bind_eq_bind,
    Option.bind_some, built]
  rfl

theorem build_container_singleton (c : Container) {arg : Argument} {w : Validator}
    (is : arg.validator? = some w) : c.function.build [arg] = .ok (c.wrap w) := by
  cases arg with
  | rule handle =>
    cases is
    rfl
  | int _ | float _ | str _ | bool _ => cases is

/-- A call for the parts of a value has one argument, however many it was built from. -/
theorem rendered_wrap {c : Container} (known : book.functions.get? c.name = some c.function)
    {w : Validator} (inner : Rendered book w) : Rendered book (c.wrap w) := by
  obtain ⟨d, us, written, stand, alike⟩ := inner
  obtain ⟨arg, argument, is⟩ := argument_of_validator? (validator?_conjunction stand)
  have isName : IsName c.name := by
    cases c with
    | items => decide
    | parts part => cases part <;> decide
  refine rendered_of_primary (.call c.name [.rule (.chain d [])]) (u := c.wrap (conj us)) ?_ ?_
    (alike_wrap c alike)
  · have text : (c.wrap w).rule.toList = c.name.toList ++ ('(' :: (w.rule.toList ++ [')'])) := by
      rw [rule_wrap]
      simp
    have kinds : (Primary.call c.name [.rule (.chain d [])]).kinds =
        [.ident c.name] ++ .open :: (d.kinds ++ [.close]) := by
      rw [Primary.kinds, Passed.kinds, Disjunction.kinds, disjunctKinds, argKinds, List.append_nil,
        List.singleton_append]
    rw [text, kinds]
    exact written_cons (k := .ident c.name) isName (written_enclosed written)
  · rw [Primary.expr, argExprs, argExprs, Passed.arg, Disjunction.expr]
    have arguments : arguments? book [.expr d.expr] = some [arg] :=
      arguments?_cons.mpr ⟨arg, argument, [], by rw [arguments?], rfl⟩
    exact validator?_call known arguments (build_container_singleton c is)

/-- Integers, separated by commas. -/
def integersText (first : Int64) (rest : List Int64) : List Char :=
  integerChars first.toInt ++ rest.flatMap fun n => ',' :: ' ' :: integerChars n.toInt

/-- An integer as an argument. -/
def passedInteger (n : Int64) : Passed :=
  .literal (.integer n)

theorem written_argKinds (ns : List Int64) :
    Written (argKinds (ns.map passedInteger))
      ((ns.flatMap fun n => ',' :: ' ' :: integerChars n.toInt) ++ [')']) := by
  induction ns with
  | nil =>
    rw [List.map_nil, argKinds]
    exact written_singleton (k := .close) trivial
  | cons n ns ih =>
    have number : Written [.integer n] ([' '] ++ integerChars n.toInt) :=
      written_blanks (written_singleton (k := .integer n) trivial)
        (List.all_eq_true.mp (by decide))
    rw [List.map_cons, argKinds, passedInteger, Passed.kinds, List.flatMap_cons, List.append_assoc]
    exact written_cons (k := .comma) trivial (written_append number ih)

theorem arguments?_integers (ns : List Int64) :
    arguments? book (argExprs (ns.map passedInteger)) = some (ns.map .int) := by
  induction ns with
  | nil => rw [List.map_nil, List.map_nil, argExprs, arguments?]
  | cons n ns ih =>
    rw [List.map_cons, List.map_cons, argExprs, passedInteger, Passed.arg]
    exact arguments?_cons.mpr ⟨.int n, by rw [Constant.arg, ArgExpr.argument?], _, ih, rfl⟩

/-- A call with integers. -/
theorem written_call {name : String} (isName : IsName name) (first : Int64) (rest : List Int64) :
    Written (Primary.call name ((first :: rest).map passedInteger)).kinds
      (name.toList ++ '(' :: (integersText first rest ++ [')'])) := by
  rw [integersText, List.append_assoc, List.map_cons, Primary.kinds, passedInteger, Passed.kinds]
  refine written_cons (k := .ident name) isName ?_
  refine written_cons (k := .open) trivial ?_
  exact written_cons (k := .integer first) trivial (written_argKinds rest)

theorem rendered_of_integers {name : String} (isName : IsName name) {f : Function}
    (known : book.functions.get? name = some f) (first : Int64) (rest : List Int64) {w : Validator}
    (built : f.build ((first :: rest).map .int) = .ok w)
    (text : w.rule.toList = name.toList ++ '(' :: (integersText first rest ++ [')'])) :
    Rendered book w := by
  refine rendered_of_primary (.call name ((first :: rest).map passedInteger)) (u := w) ?_ ?_
    (.refl w)
  · rw [text]
    exact written_call isName first rest
  · rw [Primary.expr]
    exact validator?_call known (arguments?_integers (first :: rest)) built

theorem rendered_of_name {name : String} (isName : IsName name) {f : Function}
    (known : book.functions.get? name = some f) {w : Validator} (built : f.build [] = .ok w)
    (text : w.rule = name) : Rendered book w := by
  refine rendered_of_primary (.name name) (u := w) ?_ ?_ (.refl w)
  · rw [text, Primary.kinds]
    exact written_singleton (k := .ident name) isName
  · rw [Primary.expr, Expr.validator?, Rulebook.named, known]
    dsimp only
    rw [built]
    rfl

/-! ### The functions of the standard rulebook -/

/-- The argument is an integer that a double holds exactly, or a validator that is
rendered. -/
def RenderedArgument (book : Rulebook) : Argument → Prop
  | .int n => n.toInt.natAbs ≤ greatestExact
  | .rule handle => Rendered book handle.validator
  | _ => False

theorem take_eq_ok {α : Type} {read : Argument → Option α} {expected function : String}
    {args : List Argument} {index : Nat} {x : α}
    (taken : Arguments.take read expected function args index = .ok x) :
    ∃ arg, args[index]? = some arg ∧ read arg = some x := by
  rw [Arguments.take] at taken
  split at taken
  · cases taken
  · next arg here =>
    split at taken
    · next found =>
      cases taken
      exact ⟨arg, here, found⟩
    · cases taken

theorem length_of_check {function : String} {count : Nat} {args : List Argument} {u : Unit}
    (counted : Arguments.check function (.exactly count) args = .ok u) : args.length = count := by
  rw [Arguments.check] at counted
  split at counted
  · next allowed => exact beq_iff_eq.mp allowed
  · cases counted

theorem int_of_integer? {arg : Argument} {n : Int64} (is : arg.integer? = some n) :
    arg = .int n := by
  cases arg with
  | int m =>
    cases is
    rfl
  | float _ | str _ | bool _ | rule _ => cases is

/-- A number among such arguments is an integer, and its text is that of the integer. -/
theorem int_of_number? {arg : Argument} (rendered : RenderedArgument book arg) {x : Double}
    (is : arg.number? = some x) :
    ∃ n : Int64, arg = .int n ∧ x.text.toList = integerChars n.toInt := by
  cases arg with
  | int n =>
    cases is
    exact ⟨n, rfl, text_ofInt rendered⟩
  | float _ => exact rendered.elim
  | str _ | bool _ | rule _ => cases is

theorem text?_of_rendered {arg : Argument} (rendered : RenderedArgument book arg) :
    arg.text? = none := by
  cases arg with
  | str _ => exact rendered.elim
  | int _ | float _ | bool _ | rule _ => rfl

variable {args : List Argument} {w : Validator}

theorem rendered_constant {name : String} {v : Validator} (isName : IsName name)
    (known : book.functions.get? name = some (.constant name v)) (text : v.rule = name)
    (built : (Function.constant name v).build args = .ok w) : Rendered book w := by
  rcases bind_eq_ok_iff.mp built with ⟨_, -, built⟩
  cases built
  exact rendered_of_name isName known rfl text

theorem rendered_ofNumber {name : String} {make : Double → Validator} (isName : IsName name)
    (known : book.functions.get? name = some (.ofNumber name make))
    (text : ∀ x, (make x).rule = name ++ "(" ++ x.text ++ ")")
    (rendered : ∀ arg ∈ args, RenderedArgument book arg)
    (built : (Function.ofNumber name make).build args = .ok w) : Rendered book w := by
  rcases bind_eq_ok_iff.mp built with ⟨_, counted, making⟩
  rcases bind_eq_ok_iff.mp making with ⟨x, taken, making⟩
  cases making
  obtain ⟨arg, rfl⟩ := List.length_eq_one_iff.mp (length_of_check counted)
  obtain ⟨_, ⟨⟩, is⟩ := take_eq_ok taken
  obtain ⟨n, rfl, digits⟩ := int_of_number? (rendered _ List.mem_cons_self) is
  refine rendered_of_integers isName known n [] built ?_
  rw [text]
  simp [integersText, digits]

theorem rendered_ofTwoNumbers {name : String} {make : Double → Double → Validator}
    (isName : IsName name) (known : book.functions.get? name = some (.ofTwoNumbers name make))
    (text : ∀ x y, (make x y).rule = name ++ "(" ++ x.text ++ ", " ++ y.text ++ ")")
    (rendered : ∀ arg ∈ args, RenderedArgument book arg)
    (built : (Function.ofTwoNumbers name make).build args = .ok w) : Rendered book w := by
  rcases bind_eq_ok_iff.mp built with ⟨_, counted, making⟩
  rcases bind_eq_ok_iff.mp making with ⟨x, takenFirst, making⟩
  rcases bind_eq_ok_iff.mp making with ⟨y, takenSecond, making⟩
  cases making
  obtain ⟨arg, arg', rfl⟩ := List.length_eq_two.mp (length_of_check counted)
  obtain ⟨_, ⟨⟩, isFirst⟩ := take_eq_ok takenFirst
  obtain ⟨_, ⟨⟩, isSecond⟩ := take_eq_ok takenSecond
  rcases List.forall_mem_cons.mp rendered with ⟨renderedFirst, renderedOther⟩
  obtain ⟨n, rfl, digits⟩ := int_of_number? renderedFirst isFirst
  obtain ⟨n', rfl, digits'⟩ := int_of_number? (renderedOther _ List.mem_cons_self) isSecond
  refine rendered_of_integers isName known n [n'] built ?_
  rw [text]
  simp [integersText, digits, digits']

theorem rendered_ofInteger {name : String} {make : Int64 → Validator} (isName : IsName name)
    (known : book.functions.get? name = some (.ofInteger name make))
    (text : ∀ n, (make n).rule = name ++ "(" ++ int64Text n ++ ")")
    (built : (Function.ofInteger name make).build args = .ok w) : Rendered book w := by
  rcases bind_eq_ok_iff.mp built with ⟨_, counted, making⟩
  rcases bind_eq_ok_iff.mp making with ⟨n, taken, making⟩
  cases making
  obtain ⟨arg, rfl⟩ := List.length_eq_one_iff.mp (length_of_check counted)
  obtain ⟨_, ⟨⟩, is⟩ := take_eq_ok taken
  obtain rfl := int_of_integer? is
  refine rendered_of_integers isName known n [] built ?_
  rw [text]
  simp [integersText, toList_int64Text]

theorem rendered_ofThreeIntegers {name : String} {make : Int64 → Int64 → Int64 → Validator}
    (isName : IsName name)
    (known : book.functions.get? name = some (.ofThreeIntegers name make))
    (text : ∀ k m n, (make k m n).rule =
      name ++ "(" ++ int64Text k ++ ", " ++ int64Text m ++ ", " ++ int64Text n ++ ")")
    (built : (Function.ofThreeIntegers name make).build args = .ok w) : Rendered book w := by
  rcases bind_eq_ok_iff.mp built with ⟨_, counted, making⟩
  rcases bind_eq_ok_iff.mp making with ⟨k, takenFirst, making⟩
  rcases bind_eq_ok_iff.mp making with ⟨m, takenSecond, making⟩
  rcases bind_eq_ok_iff.mp making with ⟨n, takenThird, making⟩
  cases making
  obtain ⟨arg, arg', arg'', rfl⟩ := List.length_eq_three.mp (length_of_check counted)
  obtain ⟨_, ⟨⟩, isFirst⟩ := take_eq_ok takenFirst
  obtain ⟨_, ⟨⟩, isSecond⟩ := take_eq_ok takenSecond
  obtain ⟨_, ⟨⟩, isThird⟩ := take_eq_ok takenThird
  obtain rfl := int_of_integer? isFirst
  obtain rfl := int_of_integer? isSecond
  obtain rfl := int_of_integer? isThird
  refine rendered_of_integers isName known k [m, n] built ?_
  rw [text]
  simp [integersText, toList_int64Text]

/-- No text is among such arguments. -/
theorem not_taken_text (rendered : ∀ arg ∈ args, RenderedArgument book arg) {name text : String}
    {index : Nat} : Arguments.text name args index ≠ .ok text := by
  intro taken
  obtain ⟨arg, here, is⟩ := take_eq_ok taken
  rw [text?_of_rendered (rendered arg (List.mem_of_getElem? here))] at is
  cases is

theorem not_built_ofText {name : String} {make : String → Except String Validator}
    (rendered : ∀ arg ∈ args, RenderedArgument book arg) :
    (Function.ofText name make).build args ≠ .ok w := by
  intro built
  rcases bind_eq_ok_iff.mp built with ⟨_, -, making⟩
  rcases bind_eq_ok_iff.mp making with ⟨text, taken, -⟩
  exact not_taken_text rendered taken

theorem not_built_ofTexts {name : String} {make : List String → Validator}
    (rendered : ∀ arg ∈ args, RenderedArgument book arg) :
    (Function.ofTexts name make).build args ≠ .ok w := by
  intro built
  rcases bind_eq_ok_iff.mp built with ⟨_, counted, making⟩
  rcases bind_eq_ok_iff.mp making with ⟨texts, taken, -⟩
  have are := map_read_of_take taken
  cases args with
  | nil => cases counted
  | cons arg args =>
    cases texts with
    | nil => cases are
    | cons text texts =>
      rw [List.map_cons, List.map_cons, text?_of_rendered (rendered _ List.mem_cons_self)] at are
      cases are

theorem rendered_container {c : Container}
    (known : book.functions.get? c.name = some c.function)
    (rendered : ∀ arg ∈ args, RenderedArgument book arg)
    (built : c.function.build args = .ok w) : Rendered book w := by
  obtain ⟨ws, rfl, are⟩ := build_container built
  have some_argument : args ≠ [] := by
    rintro rfl
    cases built
  refine rendered_wrap known (rendered_conj ?_ fun w mem => ?_)
  · rintro rfl
    exact some_argument (List.map_eq_nil_iff.mp are)
  · have mem : some w ∈ args.map Argument.validator? := by
      rw [are]
      exact List.mem_map_of_mem mem
    obtain ⟨arg, argMem, is⟩ := List.mem_map.mp mem
    have rendered := rendered arg argMem
    cases arg with
    | rule handle =>
      cases is
      exact rendered
    | int _ | float _ | str _ | bool _ => cases is

/-- The book has the standard functions and no symbols. -/
structure IsStandard (book : Rulebook) : Prop where
  functions : book.functions = Rulebook.standard.functions
  symbols : book.symbols = {}

/-- Whatever a standard function makes of such arguments is rendered. -/
theorem rendered_build (standard : IsStandard book) {name : String} {f : Function}
    (found : Rulebook.standard.functions.get? name = some f)
    (rendered : ∀ arg ∈ args, RenderedArgument book arg) (built : f.build args = .ok w) :
    Rendered book w := by
  have known : book.functions.get? name = some f := by
    rw [standard.functions]
    exact found
  obtain ⟨mem, rfl⟩ := mem_standard found
  rcases List.mem_append.mp mem with mem | mem
  · simp only [List.mem_cons, List.not_mem_nil, or_false] at mem
    rcases mem with rfl | rfl | rfl | rfl | rfl | rfl | rfl | rfl | rfl | rfl | rfl | rfl | rfl |
      rfl
    · exact rendered_constant (by decide) known rfl built
    · exact rendered_constant (by decide) known rfl built
    · exact rendered_ofNumber (by decide) known (fun x => rfl) rendered built
    · exact rendered_ofNumber (by decide) known (fun x => rfl) rendered built
    · exact rendered_ofTwoNumbers (by decide) known (fun x y => rfl) rendered built
    · exact rendered_ofInteger (by decide) known (fun n => rfl) built
    · exact absurd built (not_built_ofTexts rendered)
    · exact rendered_ofThreeIntegers (by decide) known (fun k m n => rfl) built
    · exact absurd built (not_built_ofText rendered)
    · exact rendered_constant (by decide) known rfl built
    · exact rendered_container (c := .items) known rendered built
    · exact rendered_container (c := .parts .key) known rendered built
    · exact rendered_container (c := .parts .value) known rendered built
    · exact rendered_container (c := .parts .entry) known rendered built
  · obtain ⟨format, -, rfl⟩ := List.mem_map.mp mem
    have isName : IsName format.name := by cases format <;> decide
    exact rendered_constant isName known rfl built

end rendering

end RecordRules

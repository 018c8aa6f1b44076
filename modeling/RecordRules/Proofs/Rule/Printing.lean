import RecordRules.Proofs.Rule.Lexing
import RecordRules.Proofs.Rule.Parsing

/-!
# Printing of rules

`Expr.words` writes a rule with as few parentheses as its tree allows: around the chains
that are operands of chains, and around what is compared with, if it is neither a literal
nor a bare name.  `Expr.print` spells the words, with any blanks between them.

What is printed is parsed as the rule that was printed (`parse_print`).
-/

namespace RecordRules

open RecordRules.Derivation

/-! ## The words of a rule -/

/-- The rule is a chain of one operator. -/
def Expr.isChain : Expr → Bool
  | .and _ | .or _ => true
  | _ => false

/-- Words in parentheses. -/
def enclosedWords (words : List TokenKind) : List TokenKind :=
  .open :: (words ++ [.close])

/-- An operand of a chain, given its words. -/
def Expr.asOperand (rule : Expr) (words : List TokenKind) : List TokenKind :=
  if rule.isChain then enclosedWords words else words

/-- The right side of a comparison, given its words. -/
def ArgExpr.asComparand (arg : ArgExpr) (words : List TokenKind) : List TokenKind :=
  match arg with
  | .expr (.ident _) => words
  | .expr _ => enclosedWords words
  | _ => words

mutual

/-- The words of a rule. -/
def Expr.words : Expr → List TokenKind
  | .and operands => chainWords .and operands
  | .or operands => chainWords .or operands
  | .ident name => [.ident name]
  | .call name [] => [.ident name, .open, .close]
  | .call name (first :: rest) => .ident name :: .open :: (first.words ++ furtherArgWords rest)
  | .eq name value => .ident name :: .equal :: value.asComparand value.words

/-- The words of a chain. -/
def chainWords (operator : TokenKind) : List Expr → List TokenKind
  | [] => []
  | first :: rest => first.asOperand first.words ++ furtherWords operator rest

/-- The words of the further operands of a chain. -/
def furtherWords (operator : TokenKind) : List Expr → List TokenKind
  | [] => []
  | operand :: rest =>
    operator :: (operand.asOperand operand.words ++ furtherWords operator rest)

/-- The words of an argument. -/
def ArgExpr.words : ArgExpr → List TokenKind
  | .integer value => [.integer value]
  | .float value => [.float value]
  | .string value => [.string value]
  | .boolean value => [.boolean value]
  | .expr rule => rule.words

/-- The words of the further arguments of a call, and the closing parenthesis. -/
def furtherArgWords : List ArgExpr → List TokenKind
  | [] => [.close]
  | arg :: rest => .comma :: (arg.words ++ furtherArgWords rest)

end

mutual

/-- The names in the rule are names, and none of its literals is a floating-point number. -/
def Expr.Spellable : Expr → Prop
  | .and operands => allSpellable operands
  | .or operands => allSpellable operands
  | .ident name => IsName name
  | .call name args => IsName name ∧ argsSpellable args
  | .eq name value => IsName name ∧ value.Spellable

/-- This holds of each of these rules. -/
def allSpellable : List Expr → Prop
  | [] => True
  | rule :: rules => rule.Spellable ∧ allSpellable rules

/-- This holds of the argument. -/
def ArgExpr.Spellable : ArgExpr → Prop
  | .float _ => False
  | .expr rule => rule.Spellable
  | _ => True

/-- This holds of each of these arguments. -/
def argsSpellable : List ArgExpr → Prop
  | [] => True
  | arg :: args => arg.Spellable ∧ argsSpellable args

end

/-! ## Printing -/

/-- Zero or more blanks. -/
structure Gap where
  chars : List Char
  blank : ∀ c ∈ chars, isBlank c = true

/-- The words with a gap before each and one at the end. -/
def layOut (gaps : Nat → Gap) : List TokenKind → List Char
  | [] => (gaps 0).chars
  | k :: ks => (gaps 0).chars ++ (k.spelling ++ layOut (fun i => gaps (i + 1)) ks)

/-- A text of the rule. -/
def Expr.print (rule : Expr) (gaps : Nat → Gap) : String :=
  String.ofList (layOut gaps rule.words)

theorem written_layOut {ks : List TokenKind} (spellable : ∀ k ∈ ks, k.Spellable)
    (gaps : Nat → Gap) : Written ks (layOut gaps ks) := by
  induction ks generalizing gaps with
  | nil => exact .nil (gaps 0).blank
  | cons k ks ih =>
    rcases List.forall_mem_cons.mp spellable with ⟨first, others⟩
    exact .cons (gaps 0).blank first (ih others _)

/-! ## Words that can be spelled -/

theorem spellable_enclosedWords {words : List TokenKind} (spellable : ∀ k ∈ words, k.Spellable) :
    ∀ k ∈ enclosedWords words, k.Spellable := by
  rw [enclosedWords, List.forall_mem_cons, List.forall_mem_append, List.forall_mem_singleton]
  exact ⟨trivial, spellable, trivial⟩

theorem spellable_asOperand (rule : Expr) {words : List TokenKind}
    (spellable : ∀ k ∈ words, k.Spellable) : ∀ k ∈ rule.asOperand words, k.Spellable := by
  rw [Expr.asOperand]
  split
  · exact spellable_enclosedWords spellable
  · exact spellable

theorem spellable_asComparand (arg : ArgExpr) {words : List TokenKind}
    (spellable : ∀ k ∈ words, k.Spellable) : ∀ k ∈ arg.asComparand words, k.Spellable := by
  rw [ArgExpr.asComparand.eq_def]
  split
  · exact spellable
  · exact spellable_enclosedWords spellable
  · exact spellable

mutual

theorem spellable_words (rule : Expr) (spellable : rule.Spellable) :
    ∀ k ∈ rule.words, k.Spellable := by
  match rule with
  | .and operands =>
    rw [Expr.words]
    exact spellable_chainWords .and trivial operands spellable
  | .or operands =>
    rw [Expr.words]
    exact spellable_chainWords .or trivial operands spellable
  | .ident name =>
    rw [Expr.words, List.forall_mem_singleton]
    exact spellable
  | .call name [] =>
    rw [Expr.words]
    simp only [List.forall_mem_cons, TokenKind.Spellable, spellable.1, List.not_mem_nil,
      false_implies, implies_true, and_true]
  | .call name (first :: rest) =>
    rw [Expr.words, List.forall_mem_cons, List.forall_mem_cons, List.forall_mem_append]
    exact ⟨spellable.1, trivial, spellable_argWords first spellable.2.1,
      spellable_furtherArgWords rest spellable.2.2⟩
  | .eq name value =>
    rw [Expr.words, List.forall_mem_cons, List.forall_mem_cons]
    exact ⟨spellable.1, trivial, spellable_asComparand value (spellable_argWords value spellable.2)⟩

theorem spellable_chainWords (operator : TokenKind) (written : operator.Spellable)
    (operands : List Expr) (spellable : allSpellable operands) :
    ∀ k ∈ chainWords operator operands, k.Spellable := by
  match operands with
  | [] => exact fun k mem => absurd mem List.not_mem_nil
  | first :: rest =>
    rw [chainWords, List.forall_mem_append]
    exact ⟨spellable_asOperand first (spellable_words first spellable.1),
      spellable_furtherWords written rest spellable.2⟩

theorem spellable_furtherWords {operator : TokenKind} (written : operator.Spellable)
    (operands : List Expr) (spellable : allSpellable operands) :
    ∀ k ∈ furtherWords operator operands, k.Spellable := by
  match operands with
  | [] => exact fun k mem => absurd mem List.not_mem_nil
  | operand :: rest =>
    rw [furtherWords, List.forall_mem_cons, List.forall_mem_append]
    exact ⟨written, spellable_asOperand operand (spellable_words operand spellable.1),
      spellable_furtherWords written rest spellable.2⟩

theorem spellable_argWords (arg : ArgExpr) (spellable : arg.Spellable) :
    ∀ k ∈ arg.words, k.Spellable := by
  match arg with
  | .integer value => exact List.forall_mem_singleton.mpr trivial
  | .float value => exact spellable.elim
  | .string value => exact List.forall_mem_singleton.mpr trivial
  | .boolean value => exact List.forall_mem_singleton.mpr trivial
  | .expr rule =>
    rw [ArgExpr.words]
    exact spellable_words rule spellable

theorem spellable_furtherArgWords (args : List ArgExpr) (spellable : argsSpellable args) :
    ∀ k ∈ furtherArgWords args, k.Spellable := by
  match args with
  | [] => exact List.forall_mem_singleton.mpr trivial
  | arg :: rest =>
    rw [furtherArgWords, List.forall_mem_cons, List.forall_mem_append]
    exact ⟨trivial, spellable_argWords arg spellable.1,
      spellable_furtherArgWords rest spellable.2⟩

end

/-! ## Derivations keep names and literals apart -/

theorem apart_cons {k : TokenKind} {ks : List TokenKind} (separates : k.Separates)
    (apart : Apart ks) : Apart (k :: ks) :=
  List.isChain_cons.mpr ⟨fun _ _ => .inl separates, apart⟩

theorem apart_name {k k' : TokenKind} {ks : List TokenKind} (separates : k'.Separates)
    (apart : Apart ks) : Apart (k :: k' :: ks) := by
  refine List.isChain_cons.mpr ⟨?_, apart_cons separates apart⟩
  rintro k'' ⟨⟩
  exact .inr separates

theorem apart_append {front back : List TokenKind} (before : Apart front) (after : Apart back)
    (separated : ∀ k ∈ back.head?, k.Separates) : Apart (front ++ back) :=
  List.isChain_append.mpr ⟨before, after, fun _ _ k mem => .inr (separated k mem)⟩

theorem apart_enclosed {ks : List TokenKind} (apart : Apart ks) :
    Apart (.open :: (ks ++ [.close])) := by
  refine apart_cons trivial (apart_append apart (List.isChain_singleton _) ?_)
  rintro k ⟨⟩
  trivial

theorem separates_head_disjunctKinds (ds : List Conjunction) :
    ∀ k ∈ (disjunctKinds ds).head?, k.Separates := by
  cases ds with
  | nil => rintro k ⟨⟩
  | cons first rest =>
    rw [disjunctKinds]
    rintro k ⟨⟩
    trivial

theorem separates_head_conjunctKinds (ds : List Primary) :
    ∀ k ∈ (conjunctKinds ds).head?, k.Separates := by
  cases ds with
  | nil => rintro k ⟨⟩
  | cons first rest =>
    rw [conjunctKinds]
    rintro k ⟨⟩
    trivial

theorem separates_head_argKinds (ds : List Passed) :
    ∀ k ∈ (argKinds ds).head?, k.Separates := by
  cases ds with
  | nil =>
    rintro k ⟨⟩
    trivial
  | cons first rest =>
    rw [argKinds]
    rintro k ⟨⟩
    trivial

mutual

theorem disjunction_apart (d : Disjunction) : Apart d.kinds := by
  match d with
  | .chain first rest =>
    rw [Disjunction.kinds]
    exact apart_append (conjunction_apart first) (disjuncts_apart rest)
      (separates_head_disjunctKinds rest)

theorem disjuncts_apart (ds : List Conjunction) : Apart (disjunctKinds ds) := by
  match ds with
  | [] => exact List.isChain_nil
  | first :: rest =>
    rw [disjunctKinds]
    exact apart_cons trivial (apart_append (conjunction_apart first) (disjuncts_apart rest)
      (separates_head_disjunctKinds rest))

theorem conjunction_apart (d : Conjunction) : Apart d.kinds := by
  match d with
  | .chain first rest =>
    rw [Conjunction.kinds]
    exact apart_append (primary_apart first) (conjuncts_apart rest)
      (separates_head_conjunctKinds rest)

theorem conjuncts_apart (ds : List Primary) : Apart (conjunctKinds ds) := by
  match ds with
  | [] => exact List.isChain_nil
  | first :: rest =>
    rw [conjunctKinds]
    exact apart_cons trivial (apart_append (primary_apart first) (conjuncts_apart rest)
      (separates_head_conjunctKinds rest))

theorem primary_apart (d : Primary) : Apart d.kinds := by
  match d with
  | .enclosed inner =>
    rw [Primary.kinds]
    exact apart_enclosed (disjunction_apart inner)
  | .name name =>
    rw [Primary.kinds]
    exact List.isChain_singleton _
  | .call name [] =>
    rw [Primary.kinds]
    exact apart_name trivial (List.isChain_singleton _)
  | .call name (first :: rest) =>
    rw [Primary.kinds]
    exact apart_name trivial (apart_append (arg_apart first) (args_apart rest)
      (separates_head_argKinds rest))
  | .comparison name value =>
    rw [Primary.kinds]
    exact apart_name trivial (operand_apart value)

theorem arg_apart (d : Passed) : Apart d.kinds := by
  match d with
  | .literal value =>
    rw [Passed.kinds]
    exact List.isChain_singleton _
  | .rule rule =>
    rw [Passed.kinds]
    exact disjunction_apart rule

theorem args_apart (ds : List Passed) : Apart (argKinds ds) := by
  match ds with
  | [] => exact List.isChain_singleton _
  | first :: rest =>
    rw [argKinds]
    exact apart_cons trivial (apart_append (arg_apart first) (args_apart rest)
      (separates_head_argKinds rest))

theorem operand_apart (d : Operand) : Apart d.kinds := by
  match d with
  | .literal value =>
    rw [Operand.kinds]
    exact List.isChain_singleton _
  | .name name =>
    rw [Operand.kinds]
    exact List.isChain_singleton _
  | .enclosed inner =>
    rw [Operand.kinds]
    exact apart_enclosed (disjunction_apart inner)

end

/-- A text in the words of a derivation is parsed as the rule that the derivation stands
for. -/
theorem parse_written {d : Disjunction} {text : List Char} (written : Written d.kinds text) :
    Expr.parse (String.ofList text) = .ok d.expr := by
  obtain ⟨body, last, scanned, kinds, ending⟩ :=
    scanFrom_of_lexed (lexed_of_written written (disjunction_apart d)) 0
  have scan : Token.scan (String.ofList text) = .ok (body ++ [last]) := by
    rw [Token.scan, String.toList_ofList, scanned]
  rw [Expr.parse, scan]
  exact ofTokens_complete ending kinds.symm

/-! ## The derivation of what is printed -/

/-- The rule is derived from its words, and from those that it has as an operand. -/
def Derived (rule : Expr) : Prop :=
  (∃ d : Disjunction, d.kinds = rule.words ∧ d.expr = rule) ∧
    ∃ d : Primary, d.kinds = rule.asOperand rule.words ∧ d.expr = rule

/-- What the operators combine is a rule. -/
theorem disjunction_of_primary (d : Primary) :
    ∃ d' : Disjunction, d'.kinds = d.kinds ∧ d'.expr = d.expr := by
  refine ⟨.chain (.chain d []) [], ?_, ?_⟩
  · rw [Disjunction.kinds, Conjunction.kinds, disjunctKinds, conjunctKinds, List.append_nil,
      List.append_nil]
  · rw [Disjunction.expr, Conjunction.expr]

/-- A name is parsed as one. -/
theorem parse_name {name : String} (isName : IsName name) :
    Expr.parse name = .ok (.ident name) := by
  obtain ⟨d, kinds, expr⟩ := disjunction_of_primary (.name name)
  have written : Written d.kinds name.toList := by
    rw [kinds]
    exact written_singleton (k := .ident name) isName
  have parsed := parse_written written
  rw [String.ofList_toList, expr] at parsed
  exact parsed

theorem derived_of_primary {rule : Expr} (plain : rule.isChain = false) (d : Primary)
    (kinds : d.kinds = rule.words) (expr : d.expr = rule) : Derived rule := by
  obtain ⟨d', kinds', expr'⟩ := disjunction_of_primary d
  refine ⟨⟨d', kinds'.trans kinds, expr'.trans expr⟩, d, ?_, expr⟩
  rw [Expr.asOperand, plain, kinds]
  rfl

theorem derived_of_disjunction {rule : Expr} (chain : rule.isChain = true) (d : Disjunction)
    (kinds : d.kinds = rule.words) (expr : d.expr = rule) : Derived rule := by
  refine ⟨⟨d, kinds, expr⟩, .enclosed d, ?_, ?_⟩
  · rw [Primary.kinds, kinds, Expr.asOperand, if_pos chain, enclosedWords]
  · rw [Primary.expr, expr]

/-- What the operators combine is a chain of `&&` with one operand. -/
theorem conjunction_of_primary (d : Primary) :
    ∃ d' : Conjunction, d'.kinds = d.kinds ∧ d'.expr = d.expr := by
  refine ⟨.chain d [], ?_, ?_⟩
  · rw [Conjunction.kinds, conjunctKinds, List.append_nil]
  · rw [Conjunction.expr]

theorem passed_of_constant (value : Derivation.Constant) :
    ∃ d : Passed, d.kinds = [value.kind] ∧ d.arg = value.arg :=
  ⟨.literal value, by rw [Passed.kinds], by rw [Passed.arg]⟩

theorem operand_of_constant (value : Derivation.Constant) :
    ∃ d : Operand, d.kinds = [value.kind] ∧ d.arg = value.arg :=
  ⟨.literal value, by rw [Operand.kinds], by rw [Operand.arg]⟩

theorem operand_of_disjunction (d : Disjunction) :
    ∃ d' : Operand, d'.kinds = enclosedWords d.kinds ∧ d'.arg = .expr d.expr :=
  ⟨.enclosed d, by rw [Operand.kinds, enclosedWords], by rw [Operand.arg]⟩

mutual

/-- A rule without chains of fewer than two operands is derived from what is printed. -/
theorem derived (rule : Expr) (chained : rule.Chained) : Derived rule := by
  match rule with
  | .and [] => exact absurd chained.1 (by decide)
  | .and [_] => exact absurd chained.1 (by simp)
  | .and (first :: second :: rest) =>
    rcases chained with ⟨-, firstChained, othersChained⟩
    obtain ⟨-, d, kinds, expr⟩ := derived first firstChained
    obtain ⟨ds, kindsRest, exprsRest⟩ := derived_conjuncts (second :: rest) othersChained
    cases ds with
    | nil => cases exprsRest
    | cons d' ds =>
      refine derived_of_disjunction rfl (.chain (.chain d (d' :: ds)) []) ?_ ?_
      · rw [Disjunction.kinds, Conjunction.kinds, disjunctKinds, List.append_nil, kinds, kindsRest,
          Expr.words, chainWords]
      · rw [conjunctExprs] at exprsRest
        rw [Disjunction.expr, Conjunction.expr, expr, exprsRest]
  | .or [] => exact absurd chained.1 (by decide)
  | .or [_] => exact absurd chained.1 (by simp)
  | .or (first :: second :: rest) =>
    rcases chained with ⟨-, firstChained, othersChained⟩
    obtain ⟨-, d, kinds, expr⟩ := derived first firstChained
    obtain ⟨d', kinds', expr'⟩ := conjunction_of_primary d
    obtain ⟨ds, kindsRest, exprsRest⟩ := derived_disjuncts (second :: rest) othersChained
    cases ds with
    | nil => cases exprsRest
    | cons second' ds =>
      refine derived_of_disjunction rfl (.chain d' (second' :: ds)) ?_ ?_
      · rw [Disjunction.kinds, kinds', kinds, kindsRest, Expr.words, chainWords]
      · rw [disjunctExprs] at exprsRest
        rw [Disjunction.expr, expr', expr, exprsRest]
  | .ident name =>
    exact derived_of_primary rfl (.name name) (by rw [Primary.kinds, Expr.words])
      (by rw [Primary.expr])
  | .call name [] =>
    exact derived_of_primary rfl (.call name []) (by rw [Primary.kinds, Expr.words])
      (by rw [Primary.expr, argExprs])
  | .call name (first :: rest) =>
    obtain ⟨d, kinds, arg⟩ := derived_arg first chained.1
    obtain ⟨ds, kindsRest, argsRest⟩ := derived_args rest chained.2
    refine derived_of_primary rfl (.call name (d :: ds)) ?_ ?_
    · rw [Primary.kinds, kinds, kindsRest, Expr.words]
    · rw [Primary.expr, argExprs, arg, argsRest]
  | .eq name value =>
    obtain ⟨d, kinds, arg⟩ := derived_comparand value chained
    refine derived_of_primary rfl (.comparison name d) ?_ ?_
    · rw [Primary.kinds, kinds, Expr.words]
    · rw [Primary.expr, arg]

theorem derived_conjuncts (rules : List Expr) (chained : allChained rules) :
    ∃ ds, conjunctKinds ds = furtherWords .and rules ∧ conjunctExprs ds = rules := by
  match rules with
  | [] => exact ⟨[], by rw [conjunctKinds, furtherWords], by rw [conjunctExprs]⟩
  | first :: rest =>
    obtain ⟨-, d, kinds, expr⟩ := derived first chained.1
    obtain ⟨ds, kindsRest, exprsRest⟩ := derived_conjuncts rest chained.2
    refine ⟨d :: ds, ?_, ?_⟩
    · rw [conjunctKinds, kinds, kindsRest, furtherWords]
    · rw [conjunctExprs, expr, exprsRest]

theorem derived_disjuncts (rules : List Expr) (chained : allChained rules) :
    ∃ ds, disjunctKinds ds = furtherWords .or rules ∧ disjunctExprs ds = rules := by
  match rules with
  | [] => exact ⟨[], by rw [disjunctKinds, furtherWords], by rw [disjunctExprs]⟩
  | first :: rest =>
    obtain ⟨-, d, kinds, expr⟩ := derived first chained.1
    obtain ⟨d', kinds', expr'⟩ := conjunction_of_primary d
    obtain ⟨ds, kindsRest, exprsRest⟩ := derived_disjuncts rest chained.2
    refine ⟨d' :: ds, ?_, ?_⟩
    · rw [disjunctKinds, kinds', kinds, kindsRest, furtherWords]
    · rw [disjunctExprs, expr', expr, exprsRest]

theorem derived_arg (arg : ArgExpr) (chained : arg.Chained) :
    ∃ d : Passed, d.kinds = arg.words ∧ d.arg = arg := by
  match arg with
  | .integer value => exact passed_of_constant (.integer value)
  | .float value => exact passed_of_constant (.float value)
  | .string value => exact passed_of_constant (.string value)
  | .boolean value => exact passed_of_constant (.boolean value)
  | .expr rule =>
    obtain ⟨⟨d, kinds, expr⟩, -⟩ := derived rule chained
    refine ⟨.rule d, ?_, ?_⟩
    · rw [Passed.kinds, kinds, ArgExpr.words]
    · rw [Passed.arg, expr]

theorem derived_args (args : List ArgExpr) (chained : argsChained args) :
    ∃ ds, argKinds ds = furtherArgWords args ∧ argExprs ds = args := by
  match args with
  | [] => exact ⟨[], by rw [argKinds, furtherArgWords], by rw [argExprs]⟩
  | first :: rest =>
    obtain ⟨d, kinds, arg⟩ := derived_arg first chained.1
    obtain ⟨ds, kindsRest, argsRest⟩ := derived_args rest chained.2
    refine ⟨d :: ds, ?_, ?_⟩
    · rw [argKinds, kinds, kindsRest, furtherArgWords]
    · rw [argExprs, arg, argsRest]

theorem derived_comparand (arg : ArgExpr) (chained : arg.Chained) :
    ∃ d : Operand, d.kinds = arg.asComparand arg.words ∧ d.arg = arg := by
  match arg with
  | .integer value => exact operand_of_constant (.integer value)
  | .float value => exact operand_of_constant (.float value)
  | .string value => exact operand_of_constant (.string value)
  | .boolean value => exact operand_of_constant (.boolean value)
  | .expr rule =>
    obtain ⟨⟨d, kinds, expr⟩, -⟩ := derived rule chained
    obtain ⟨d', kinds', arg⟩ := operand_of_disjunction d
    rw [kinds] at kinds'
    rw [expr] at arg
    -- Only a bare name goes without the parentheses.
    cases rule with
    | ident name => exact ⟨.name name, by rw [Operand.kinds]; rfl, by rw [Operand.arg]⟩
    | and | or | call | eq => exact ⟨d', kinds', arg⟩

end

/-! ## Rules that are parsed -/

/-- In a rule that was parsed, every chain has at least two operands. -/
theorem parse_chained {text : String} {rule : Expr} (parsed : Expr.parse text = .ok rule) :
    rule.Chained := by
  rw [Expr.parse] at parsed
  rcases bind_eq_ok_iff.mp parsed with ⟨ts, scanned, parsed⟩
  obtain ⟨body, rfl, before⟩ := (lies_of_scanFrom scanned).ends
  obtain ⟨d, -, rfl⟩ := ofTokens_sound before rfl parsed
  exact disjunction_chained d

/-! ## Parsing undoes printing -/

/-- Any text in the words of a rule is parsed as that rule. -/
theorem parse_words {rule : Expr} (chained : rule.Chained) {text : List Char}
    (written : Written rule.words text) : Expr.parse (String.ofList text) = .ok rule := by
  obtain ⟨⟨d, kinds, expr⟩, -⟩ := derived rule chained
  rw [← kinds] at written
  rw [parse_written written, expr]

/-- The text of a rule is parsed as that rule, whatever blanks stand between the words: for
any tree in which chains have at least two operands, names are names and there are no
floating-point numbers. -/
theorem parse_print {rule : Expr} (chained : rule.Chained) (spellable : rule.Spellable)
    (gaps : Nat → Gap) : Expr.parse (rule.print gaps) = .ok rule :=
  parse_words chained (written_layOut (spellable_words rule spellable) gaps)

/-- A group in a group, the least integer, a string with quote and backslash, and a gap. -/
theorem parse_print_of_nested_group :
    ∃ rule : Expr, rule = .or [
        .and [.or [.ident "a", .ident "_b2"], .eq "min" (.integer (-9223372036854775808))],
        .call "f" [.string "\"\\é", .boolean false, .expr (.eq "k" (.expr (.call "g" [])))]] ∧
      rule.Chained ∧ rule.Spellable ∧
      Expr.parse "(\n (a||_b2)&&min==-9223372036854775808)||f(\"\\\"\\\\é\",false,k==(g()))" =
        .ok rule := by
  have chained : Expr.Chained (.or [
      .and [.or [.ident "a", .ident "_b2"], .eq "min" (.integer (-9223372036854775808))],
      .call "f" [.string "\"\\é", .boolean false, .expr (.eq "k" (.expr (.call "g" [])))]]) := by
    simp [Expr.Chained, allChained, argsChained, ArgExpr.Chained]
  have spellable : Expr.Spellable (.or [
      .and [.or [.ident "a", .ident "_b2"], .eq "min" (.integer (-9223372036854775808))],
      .call "f" [.string "\"\\é", .boolean false, .expr (.eq "k" (.expr (.call "g" [])))]]) := by
    simp only [Expr.Spellable, allSpellable, ArgExpr.Spellable, argsSpellable]
    decide
  exact ⟨_, rfl, chained, spellable,
    parse_print chained spellable fun i =>
      if i = 1 then ⟨['\n', ' '], List.all_eq_true.mp (by decide)⟩ else ⟨[], by simp⟩⟩

end RecordRules

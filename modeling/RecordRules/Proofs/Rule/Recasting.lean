import RecordRules.Proofs.Rule.Lexing
import RecordRules.Proofs.Rule.Parsing

/-!
# Comparisons written as calls

`name == operand` can be written as `name(operand)`, at some places of a rule and not at others.
This is said of derivations (`Disjunction.Recast`), of the tokens that they spell (`Edits`) and of
texts (`Edited`): a text changes only where `==` becomes an opening parenthesis and where the
closing one is put behind the operand.  What comes out is a rule again, that of the recast
derivation (`parse_edited`).
-/

namespace RecordRules

namespace Derivation

/-! ## Derivations -/

/-- The right side of a comparison, as an argument. -/
def Operand.passed : Operand → Passed
  | .literal value => .literal value
  | .name n => .rule (.chain (.chain (.name n) []) [])
  | .enclosed inner => .rule (.chain (.chain (.enclosed inner) []) [])

mutual

/-- Some of the comparisons in the chain are written as calls. -/
inductive Disjunction.Recast : Disjunction → Disjunction → Prop
  | chain {first first' : Conjunction} {rest rest' : List Conjunction} :
    Conjunction.Recast first first' → RecastDisjuncts rest rest' →
    Disjunction.Recast (.chain first rest) (.chain first' rest')

/-- Some of those in the further operands of a chain of `||` are. -/
inductive RecastDisjuncts : List Conjunction → List Conjunction → Prop
  | nil : RecastDisjuncts [] []
  | cons {first first' : Conjunction} {rest rest' : List Conjunction} :
    Conjunction.Recast first first' → RecastDisjuncts rest rest' →
    RecastDisjuncts (first :: rest) (first' :: rest')

/-- Some of those in the chain are. -/
inductive Conjunction.Recast : Conjunction → Conjunction → Prop
  | chain {first first' : Primary} {rest rest' : List Primary} :
    Primary.Recast first first' → RecastConjuncts rest rest' →
    Conjunction.Recast (.chain first rest) (.chain first' rest')

/-- Some of those in the further operands of a chain of `&&` are. -/
inductive RecastConjuncts : List Primary → List Primary → Prop
  | nil : RecastConjuncts [] []
  | cons {first first' : Primary} {rest rest' : List Primary} :
    Primary.Recast first first' → RecastConjuncts rest rest' →
    RecastConjuncts (first :: rest) (first' :: rest')

/-- Some of those in what the operators combine are. -/
inductive Primary.Recast : Primary → Primary → Prop
  | enclosed {inner inner' : Disjunction} : Disjunction.Recast inner inner' →
    Primary.Recast (.enclosed inner) (.enclosed inner')
  | name (name : String) : Primary.Recast (.name name) (.name name)
  | call (name : String) {args args' : List Passed} : RecastArgs args args' →
    Primary.Recast (.call name args) (.call name args')
  | comparison (name : String) {value value' : Operand} : Operand.Recast value value' →
    Primary.Recast (.comparison name value) (.comparison name value')
  | called (name : String) {value value' : Operand} : Operand.Recast value value' →
    Primary.Recast (.comparison name value) (.call name [value'.passed])

/-- Some of those in the arguments are. -/
inductive RecastArgs : List Passed → List Passed → Prop
  | nil : RecastArgs [] []
  | cons {first first' : Passed} {rest rest' : List Passed} :
    Passed.Recast first first' → RecastArgs rest rest' →
    RecastArgs (first :: rest) (first' :: rest')

/-- Some of those in the argument are. -/
inductive Passed.Recast : Passed → Passed → Prop
  | literal (value : Constant) : Passed.Recast (.literal value) (.literal value)
  | rule {inner inner' : Disjunction} : Disjunction.Recast inner inner' →
    Passed.Recast (.rule inner) (.rule inner')

/-- Some of those in the right side of a comparison are. -/
inductive Operand.Recast : Operand → Operand → Prop
  | literal (value : Constant) : Operand.Recast (.literal value) (.literal value)
  | name (name : String) : Operand.Recast (.name name) (.name name)
  | enclosed {inner inner' : Disjunction} : Disjunction.Recast inner inner' →
    Operand.Recast (.enclosed inner) (.enclosed inner')

end

/-! ## Tokens -/

theorem kinds_passed (value : Operand) : value.passed.kinds = value.kinds := by
  cases value with
  | literal value => rw [Operand.passed, Passed.kinds, Operand.kinds]
  | name name =>
    rw [Operand.passed, Passed.kinds, Operand.kinds, Disjunction.kinds, Conjunction.kinds,
      Primary.kinds]
    rfl
  | enclosed inner =>
    rw [Operand.passed, Passed.kinds, Operand.kinds, Disjunction.kinds, Conjunction.kinds,
      Primary.kinds, conjunctKinds, disjunctKinds, List.append_nil, List.append_nil]

/-- Some `==` become opening parentheses, and closing ones are put in. -/
inductive Edits : List TokenKind → List TokenKind → Prop
  | nil : Edits [] []
  | keep {k : TokenKind} {ks ks' : List TokenKind} : Edits ks ks' → Edits (k :: ks) (k :: ks')
  | opened {ks ks' : List TokenKind} : Edits ks ks' → Edits (.equal :: ks) (.open :: ks')
  | closed {ks ks' : List TokenKind} : Edits ks ks' → Edits ks (.close :: ks')

theorem Edits.append {front front' back back' : List TokenKind} (first : Edits front front')
    (second : Edits back back') : Edits (front ++ back) (front' ++ back') := by
  induction first with
  | nil => exact second
  | keep _ ih => exact .keep ih
  | opened _ ih => exact .opened ih
  | closed _ ih => exact .closed ih

theorem edits_enclosed {ks ks' : List TokenKind} (inner : Edits ks ks') :
    Edits (.open :: (ks ++ [.close])) (.open :: (ks' ++ [.close])) :=
  .keep (inner.append (.keep .nil))

mutual

theorem disjunction_edits {d d' : Disjunction} (recast : d.Recast d') :
    Edits d.kinds d'.kinds := by
  match recast with
  | .chain first rest =>
    rw [Disjunction.kinds, Disjunction.kinds]
    exact (conjunction_edits first).append (disjuncts_edits rest)

theorem disjuncts_edits {ds ds' : List Conjunction} (recast : RecastDisjuncts ds ds') :
    Edits (disjunctKinds ds) (disjunctKinds ds') := by
  match recast with
  | .nil => exact .nil
  | .cons first rest =>
    rw [disjunctKinds, disjunctKinds]
    exact .keep ((conjunction_edits first).append (disjuncts_edits rest))

theorem conjunction_edits {d d' : Conjunction} (recast : d.Recast d') :
    Edits d.kinds d'.kinds := by
  match recast with
  | .chain first rest =>
    rw [Conjunction.kinds, Conjunction.kinds]
    exact (primary_edits first).append (conjuncts_edits rest)

theorem conjuncts_edits {ds ds' : List Primary} (recast : RecastConjuncts ds ds') :
    Edits (conjunctKinds ds) (conjunctKinds ds') := by
  match recast with
  | .nil => exact .nil
  | .cons first rest =>
    rw [conjunctKinds, conjunctKinds]
    exact .keep ((primary_edits first).append (conjuncts_edits rest))

theorem primary_edits {d d' : Primary} (recast : d.Recast d') : Edits d.kinds d'.kinds := by
  match recast with
  | .enclosed inner =>
    rw [Primary.kinds, Primary.kinds]
    exact edits_enclosed (disjunction_edits inner)
  | .name name => exact .keep .nil
  | .call name .nil => exact .keep (.keep (.keep .nil))
  | .call name (.cons first rest) =>
    rw [Primary.kinds, Primary.kinds]
    exact .keep (.keep ((arg_edits first).append (args_edits rest)))
  | .comparison name value =>
    rw [Primary.kinds, Primary.kinds]
    exact .keep (.keep (operand_edits value))
  | .called name value =>
    rw [Primary.kinds, Primary.kinds, kinds_passed, argKinds]
    have behind := (operand_edits value).append (.closed .nil)
    rw [List.append_nil] at behind
    exact .keep (.opened behind)

theorem args_edits {ds ds' : List Passed} (recast : RecastArgs ds ds') :
    Edits (argKinds ds) (argKinds ds') := by
  match recast with
  | .nil => exact .keep .nil
  | .cons first rest =>
    rw [argKinds, argKinds]
    exact .keep ((arg_edits first).append (args_edits rest))

theorem arg_edits {d d' : Passed} (recast : d.Recast d') : Edits d.kinds d'.kinds := by
  match recast with
  | .literal value => exact .keep .nil
  | .rule inner =>
    rw [Passed.kinds, Passed.kinds]
    exact disjunction_edits inner

theorem operand_edits {d d' : Operand} (recast : d.Recast d') : Edits d.kinds d'.kinds := by
  match recast with
  | .literal value => exact .keep .nil
  | .name name => exact .keep .nil
  | .enclosed inner =>
    rw [Operand.kinds, Operand.kinds]
    exact edits_enclosed (disjunction_edits inner)

end

end Derivation

/-! ## Texts -/

open RecordRules.Derivation

/-- The words of the text are edited: a `==` becomes an opening parenthesis and a closing one is
put in behind a word, and everything else stays as it is. -/
inductive Edited : List TokenKind → List Char → List TokenKind → List Char → Prop
  | nil {blanks : List Char} : (∀ c ∈ blanks, isBlank c = true) → Edited [] blanks [] blanks
  | keep {blanks cs text text' : List Char} {c : Char} {k : TokenKind} {ks ks' : List TokenKind} :
    (∀ c ∈ blanks, isBlank c = true) → Word k c cs text → Edited ks text ks' text' →
    Edited (k :: ks) (blanks ++ c :: (cs ++ text)) (k :: ks') (blanks ++ c :: (cs ++ text'))
  | opened {blanks cs text text' : List Char} {c : Char} {ks ks' : List TokenKind} :
    (∀ c ∈ blanks, isBlank c = true) → Word .equal c cs text → Edited ks text ks' text' →
    Edited (.equal :: ks) (blanks ++ c :: (cs ++ text)) (.open :: ks') (blanks ++ '(' :: text')
  | closed {text text' : List Char} {ks ks' : List TokenKind} : Edited ks text ks' text' →
    Edited ks text (.close :: ks') (')' :: text')

section texts

variable {text text' : List Char} {ks ks' : List TokenKind}

/-- What is edited as tokens can be edited as a text. -/
theorem exists_edited (edits : Edits ks ks') (lexed : Lexed ks text) :
    ∃ text', Edited ks text ks' text' := by
  induction edits generalizing text with
  | nil =>
    cases lexed with
    | nil allBlank => exact ⟨text, .nil allBlank⟩
  | keep _ ih =>
    cases lexed with
    | cons allBlank word others =>
      obtain ⟨text', edited⟩ := ih others
      exact ⟨_, .keep allBlank word edited⟩
  | opened _ ih =>
    cases lexed with
    | cons allBlank word others =>
      obtain ⟨text', edited⟩ := ih others
      exact ⟨_, .opened allBlank word edited⟩
  | closed _ ih =>
    obtain ⟨text', edited⟩ := ih lexed
    exact ⟨_, .closed edited⟩

/-- Behind a word the edited text can stand in place of the first one. -/
theorem Edited.beside (edited : Edited ks text ks' text') : Beside text text' := by
  cases edited with
  | nil allBlank =>
    have none : Beside [] [] := fun c cs is => by cases is
    have same := beside_blanks allBlank none
    rwa [List.append_nil] at same
  | keep allBlank word _ => exact beside_blanks allBlank (beside_cons word.ne_point _ _)
  | opened allBlank word _ =>
    refine beside_blanks allBlank ?_
    rintro _ _ ⟨⟩
    exact .inl rfl
  | closed _ =>
    rintro _ _ ⟨⟩
    exact .inr (.inl rfl)

theorem word_open (text : List Char) : Word .open '(' [] text :=
  ⟨by decide, fun _ => rfl⟩

theorem word_close (text : List Char) : Word .close ')' [] text :=
  ⟨by decide, fun _ => rfl⟩

/-- An edited text is read as the edited tokens. -/
theorem Edited.lexed (edited : Edited ks text ks' text') : Lexed ks' text' := by
  induction edited with
  | nil allBlank => exact .nil allBlank
  | keep allBlank word later ih => exact .cons allBlank (word.beside later.beside) ih
  | opened allBlank _ _ ih => exact .cons allBlank (word_open _) ih
  | closed _ ih => exact .cons (List.forall_mem_nil _) (word_close _) ih

end texts

/-! ## Rules -/

/-- A text that is read as a derivation is parsed as the rule of the derivation. -/
theorem parse_lexed {d : Disjunction} {text : String} (lexed : Lexed d.kinds text.toList) :
    Expr.parse text = .ok d.expr := by
  obtain ⟨body, last, scanned, kinds, ending⟩ := scanFrom_of_lexed lexed 0
  rw [Expr.parse, Token.scan, scanned]
  exact ofTokens_complete ending kinds.symm

/-- A text that is parsed is read as a derivation of the rule. -/
theorem lexed_of_parse {text : String} {rule : Expr} (parsed : Expr.parse text = .ok rule) :
    ∃ d : Disjunction, d.expr = rule ∧ Lexed d.kinds text.toList := by
  rw [Expr.parse] at parsed
  obtain ⟨ts, scanned, parsed⟩ := bind_eq_ok_iff.mp parsed
  obtain ⟨body, last, rfl, ending, lexed⟩ := lexed_of_scanFrom scanned
  obtain ⟨d, kinds, rfl⟩ := ofTokens_sound lexed.ne_ending ending parsed
  exact ⟨d, rfl, kinds ▸ lexed⟩

/-- A text is read as one derivation at most. -/
theorem derivation_unique {d d' : Disjunction} {text : List Char} (lexed : Lexed d.kinds text)
    (lexed' : Lexed d'.kinds text) : d = d' := by
  obtain ⟨body, last, scanned, kinds, -⟩ := scanFrom_of_lexed lexed 0
  obtain ⟨body', last', scanned', kinds', -⟩ := scanFrom_of_lexed lexed' 0
  obtain ⟨rfl, -⟩ := List.append_inj' (Except.ok.inj (scanned.symm.trans scanned')) rfl
  have same : d.kinds ++ [] = d'.kinds ++ [] := by rw [← kinds, ← kinds']
  exact (Parse.disjunction_unique d d' same .nil .nil).1

end RecordRules

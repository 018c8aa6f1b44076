import RecordRules.Proofs.Rule.Quoting
import RecordRules.Proofs.Rule.Recasting
import RecordRules.Proofs.Rulebook.Operands
import RecordRules.Proofs.Rulebook.Rebuilding

/-!
# Building the rule text of a choice

The rule text of a choice lists the texts that are allowed, in quoted form.  A standard rulebook
builds it to a choice again, of what the scanner reads of the quoted forms (`rebuilt_oneOf`).  So
the choice is the same one if none of the texts has a character that is written by its number; if
there is such a text, it passes the first choice and not the second (`rebuilt_oneOf_of_control`).
-/

namespace RecordRules

open RecordRules.Derivation Validator

/-! ## The text -/

/-- An allowed text as an argument, as it is read. -/
def passedText (s : String) : Passed :=
  .literal (.string (reread s))

/-- A choice, as its rule text is read. -/
def choiceRule (allowed : List String) : Disjunction :=
  .chain (.chain (.call "oneof" (allowed.map passedText)) []) []

/-- The quoted texts that follow the first one, and the closing parenthesis. -/
def furtherTexts (allowed : List String) : List Char :=
  (allowed.flatMap fun s => ',' :: ' ' :: (quoted s).toList) ++ [')']

theorem lexed_word {k : TokenKind} {c : Char} {cs text : List Char} {ks : List TokenKind}
    (word : Word k c cs text) (others : Lexed ks text) : Lexed (k :: ks) (c :: (cs ++ text)) :=
  .cons (List.forall_mem_nil _) word others

theorem word_comma (text : List Char) : Word .comma ',' [] text :=
  ⟨by decide, fun _ => rfl⟩

theorem word_oneof (text : List Char) :
    Word (.ident "oneof") 'o' ['n', 'e', 'o', 'f'] ('(' :: text) :=
  ⟨by decide, fun _ => rfl⟩

theorem lexed_argKinds (allowed : List String) :
    Lexed (argKinds (allowed.map passedText)) (furtherTexts allowed) := by
  induction allowed with
  | nil => exact lexed_word (word_close []) (.nil (List.forall_mem_nil _))
  | cons s allowed ih =>
    have blank : ∀ c ∈ [' '], isBlank c = true := List.all_eq_true.mp (by decide)
    have kinds : argKinds ((s :: allowed).map passedText) =
        .comma :: .string (reread s) :: argKinds (allowed.map passedText) := by
      rw [List.map_cons, argKinds, passedText, Passed.kinds]
      rfl
    have text : furtherTexts (s :: allowed) = ',' :: ([] ++ ([' '] ++
        '"' :: (s.toList.flatMap escapeChar ++ ['"'] ++ furtherTexts allowed))) := by
      simp [furtherTexts, toList_quoted]
    rw [kinds, text]
    exact lexed_word (word_comma _) (.cons blank (word_quoted s _) ih)

theorem lexed_choiceRule {allowed : List String} (some : allowed ≠ []) :
    Lexed (choiceRule allowed).kinds (Validator.check (.oneOf allowed)).rule.toList := by
  match allowed, some with
  | s :: allowed, _ =>
    have kinds : (choiceRule (s :: allowed)).kinds = .ident "oneof" :: .open ::
        .string (reread s) :: argKinds (allowed.map passedText) := by
      simp [choiceRule, Disjunction.kinds, Conjunction.kinds, conjunctKinds, disjunctKinds,
        Primary.kinds, passedText, Passed.kinds, Constant.kind]
    have text : (Validator.check (.oneOf (s :: allowed))).rule.toList =
        'o' :: (['n', 'e', 'o', 'f'] ++ '(' :: ([] ++
          '"' :: (s.toList.flatMap escapeChar ++ ['"'] ++ furtherTexts allowed))) := by
      rw [rule, Check.rule, String.toList_append, String.toList_append, List.map_cons,
        toList_intercalate_cons, toList_quoted, List.flatMap_map]
      simp [furtherTexts]
    rw [kinds, text]
    have arguments := lexed_word (word_quoted s _) (lexed_argKinds allowed)
    exact lexed_word (word_oneof _) (lexed_word (word_open _) arguments)

/-! ## The validator -/

/-- A function of texts makes a validator of the texts that it is given. -/
theorem build_ofTexts (name : String) (make : List String → Validator) {texts : List String}
    (some : texts ≠ []) :
    (Function.ofTexts name make).build (texts.map .str) = .ok (make texts) := by
  have counted : Arguments.check name (.atLeast 1) (texts.map .str) = .ok () := by
    have pos : 1 ≤ texts.length := List.length_pos_iff.mpr some
    simp [Arguments.check, Arity.Allows, pos]
  have taken : (List.range (texts.map Argument.str).length).mapM
      (Arguments.text name (texts.map .str)) = .ok texts := by
    refine mapM_eq_ok_iff.mpr (List.forall₂_iff_get.mpr ⟨by simp, fun i inRange inTexts => ?_⟩)
    simp only [List.get_eq_getElem, List.getElem_range, Arguments.text, Arguments.take,
      List.getElem?_map, List.getElem?_eq_getElem inTexts, Option.map_some]
    rfl
  rw [Function.ofTexts]
  dsimp only
  rw [counted, taken]
  rfl

theorem argExprs_passedText (allowed : List String) :
    argExprs (allowed.map passedText) = allowed.map fun s => .string (reread s) := by
  induction allowed with
  | nil => rfl
  | cons s allowed ih =>
    rw [List.map_cons, argExprs, ih, passedText, Passed.arg]
    rfl

theorem lowerAll_texts (book : Rulebook) (serial : Nat) (texts : List String) :
    ArgExpr.lowerAll (book.builder serial) (texts.map .string) = .ok (texts.map .string) := by
  induction texts with
  | nil =>
    rw [List.map_nil, ArgExpr.lowerAll]
    rfl
  | cons s texts ih =>
    rw [List.map_cons, ArgExpr.lowerAll, ArgExpr.lower, ih]
    rfl

theorem mapM_lower_texts (book : Rulebook) (serial : Nat) (texts : List String) :
    (texts.map Arg.string).mapM (book.lower serial) = .ok (texts.map .str) := by
  induction texts with
  | nil => rfl
  | cons s texts ih =>
    rw [List.map_cons, List.mapM_cons, Rulebook.lower, ih]
    rfl

/-- A standard rulebook compiles the rule text of a choice to the choice of what comes back of the
texts. -/
theorem compile_choice {book : Rulebook} (standard : IsStandard book) (serial : Nat)
    {allowed : List String} (some : allowed ≠ []) :
    book.compile serial (Validator.check (.oneOf allowed)).rule =
      .ok ⟨serial, .check (.oneOf (allowed.map reread))⟩ := by
  have some' : allowed.map reread ≠ [] := by simpa using some
  have known : book.functions.get? "oneof" =
      Option.some (.ofTexts "oneof" fun allowed => .check (.oneOf allowed)) := by
    rw [standard.functions]
    rfl
  have expr : (choiceRule allowed).expr =
      .call "oneof" ((allowed.map reread).map .string) := by
    rw [choiceRule, Disjunction.expr, Conjunction.expr, Primary.expr, argExprs_passedText,
      List.map_map]
    rfl
  have parsed := parse_lexed (lexed_choiceRule some)
  rw [expr] at parsed
  rw [compile_of_parse book serial parsed, Rulebook.compileExpr_call, lowerAll_texts, Except.bind,
    Rulebook.apply, known]
  dsimp only
  rw [mapM_lower_texts]
  change (do return Handle.mk serial (← (Function.ofTexts "oneof" _).build _)) = _
  rw [build_ofTexts _ _ some']
  rfl

/-- So does one that has built other rules, whether it builds the text now or has before. -/
theorem build_choice {allowed : List String} (some : allowed ≠ []) (texts : List String) :
    ∃ handle, ((standardAfter texts).build (Validator.check (.oneOf allowed)).rule).1 =
      .ok handle ∧ handle.validator = .check (.oneOf (allowed.map reread)) := by
  cases result : ((standardAfter texts).build (Validator.check (.oneOf allowed)).rule).1 with
  | ok handle =>
    obtain ⟨book, serial, standard, compiles⟩ := compile_of_build result
    cases compiles.symm.trans (compile_choice standard serial some)
    exact ⟨_, rfl, rfl⟩
  | error e =>
    have compiles := compile_choice (isStandard_standardAfter texts)
      ((standardAfter texts).parses + 1) some
    rcases (standardAfter texts).build_cases (Validator.check (.oneOf allowed)).rule with
      ⟨_, _, is⟩ | ⟨_, _, _, is⟩ | ⟨_, _, fails, is⟩
    · rw [is] at result
      cases result
    · rw [is] at result
      cases result
    · cases fails.symm.trans compiles

/-! ## The outcomes -/

theorem test_oneOf_text (allowed : List String) (root : Option Value) (s : String) :
    (Check.oneOf allowed).test root (.text s) = .ok () ↔ s ∈ allowed := by
  have literal : (Value.text s).literal? = some (.str s) := by
    simp [Value.literal?, Value.indirect, Value.view]
  rw [Check.test, Check.testOneOf, literal]
  dsimp only
  by_cases mem : (Literal.str s).text ∈ allowed
  · rw [if_pos mem]
    exact iff_of_true rfl mem
  · rw [if_neg mem]
    exact iff_of_false (by simp) mem

/-- The choice of what comes back acts like the first one only if every text does come back. -/
theorem alike_choice_iff (allowed : List String) :
    ActAlike (.check (.oneOf (allowed.map reread))) (.check (.oneOf allowed)) ↔
      ∀ s ∈ allowed, ∀ c ∈ s.toList, isNumbered c = false := by
  constructor
  · intro alike s mem c char
    let tests : Validator.Runner Id := ⟨fun check root v => check.test root v, fun _ _ => .ok ()⟩
    have same := alike.run Id tests none (.text s)
    simp only [run] at same
    have passes := same.trans ((test_oneOf_text allowed none s).mpr mem)
    obtain ⟨t, -, rfl⟩ := List.mem_map.mp ((test_oneOf_text _ none s).mp passes)
    exact not_isNumbered_of_reread char
  · intro none
    have each : ∀ s ∈ allowed, reread s = id s := fun s mem =>
      (reread_eq_self_iff s).mpr (none s mem)
    rw [List.map_congr_left each, List.map_id]
    exact ActAlike.refl _

/-- The scanner reads a string back from its quoted form exactly if no character of it is written by
its number; what it reads otherwise is the number with its braces in place of the character.  The
rule text of a choice of one or more texts is built by a standard rulebook, at any time, to the
choice of what is read back of the texts.  So it acts like the first choice exactly if no text has a
character that is written by its number. -/
theorem rebuilt_oneOf {allowed : List String} (some : allowed ≠ []) (texts : List String) :
    (∀ s, (Token.scan (quoted s)).map (List.map Token.kind) =
        .ok [.string (reread s), .ending] ∧
      (reread s = s ↔ ∀ c ∈ s.toList, isNumbered c = false)) ∧
    ∃ handle, ((standardAfter texts).build (Validator.check (.oneOf allowed)).rule).1 =
        .ok handle ∧
      handle.validator = .check (.oneOf (allowed.map reread)) ∧
      (ActAlike handle.validator (.check (.oneOf allowed)) ↔
        ∀ s ∈ allowed, ∀ c ∈ s.toList, isNumbered c = false) := by
  obtain ⟨handle, built, is⟩ := build_choice some texts
  refine ⟨fun s => ⟨scan_quoted s, reread_eq_self_iff s⟩, handle, built, is, ?_⟩
  rw [is]
  exact alike_choice_iff allowed

/-- A choice of a quote, a backslash and the named controls is the same again. -/
theorem rebuilt_oneOf_of_named :
    ["\"\\\n\r\t\x00"] ≠ [] ∧
      ∃ handle, ((standardAfter []).build
          (Validator.check (.oneOf ["\"\\\n\r\t\x00"])).rule).1 = .ok handle ∧
        ActAlike handle.validator (.check (.oneOf ["\"\\\n\r\t\x00"])) := by
  have some : ["\"\\\n\r\t\x00"] ≠ [] := List.cons_ne_nil _ _
  have named : ("\"\\\n\r\t\x00".toList.all fun c => !isNumbered c) = true := by decide
  obtain ⟨-, handle, built, -, alike⟩ := rebuilt_oneOf some []
  refine ⟨some, handle, built, alike.mpr fun s mem c char => ?_⟩
  rw [List.mem_singleton.mp mem] at char
  simpa using List.all_eq_true.mp named c char

/-- The control U+0001 is written by its number.  The rule text of the choice of it is built to the
choice of `u`, a brace, `1` and a brace, which refuses the control and has another rule text. -/
theorem rebuilt_oneOf_of_control :
    (Validator.check (.oneOf ["\x01"])).rule = "oneof(\"\\u\x7b1\x7d\")" ∧
      (∃ handle, ((standardAfter []).build "oneof(\"\\u\x7b1\x7d\")").1 = .ok handle ∧
        handle.validator = .check (.oneOf ["u\x7b1\x7d"]) ∧
        handle.validator.rule = "oneof(\"u\x7b1\x7d\")") ∧
      (Check.oneOf ["\x01"]).test none (.text "\x01") = .ok () ∧
      (Check.oneOf ["u\x7b1\x7d"]).test none (.text "\x01") ≠ .ok () := by
  have text : (Validator.check (.oneOf ["\x01"])).rule = "oneof(\"\\u\x7b1\x7d\")" := by decide
  have back : ["\x01"].map reread = ["u\x7b1\x7d"] := by decide
  obtain ⟨handle, built, is⟩ := build_choice (List.cons_ne_nil "\x01" []) []
  rw [text] at built
  rw [back] at is
  refine ⟨text, ⟨handle, built, is, ?_⟩, (test_oneOf_text _ none _).mpr (by decide), ?_⟩
  · rw [is]
    decide
  · intro passes
    exact absurd ((test_oneOf_text _ none _).mp passes) (by decide)

end RecordRules

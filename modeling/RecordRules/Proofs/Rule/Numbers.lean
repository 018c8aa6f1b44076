import RecordRules.Proofs.Number.Nearest
import RecordRules.Proofs.Rule.Numeral
import RecordRules.Rule.Parse

/-!
# The numbers of a text

The scanner reads a number exactly where a number literal starts, takes the longest one, and makes
of it what it denotes; a literal that denotes nothing is refused with its text and its position
(`lexeme_of_longest`, `scan_numbers`).  Integers are exact, and decimals are rounded to the nearest
double.  A decimal beyond the greatest double is not refused, as an integer of more than 64 bits is,
but becomes an infinite token (`scan_infinite`).
-/

namespace RecordRules

/-! ## Lexemes -/

section lexeme

variable {position : Nat} {c : Char} {cs literal : List Char}

/-- The token of a number. -/
def TokenKind.IsNumber : TokenKind → Prop
  | integer _ | float _ => True
  | _ => False

theorem not_isNumber_nameKind (name : List Char) : ¬(nameKind name).IsNumber := by
  rw [nameKind]
  split <;> exact not_false

theorem marksFloat_of_starts (starts : StartsNumeral c cs) (taken : List Char) :
    marksFloat (c :: taken) = marksFloat taken := by
  rcases starts with digit | ⟨rfl | rfl, -⟩
  · exact marksFloat_digit (.inl digit) taken
  · rfl
  · rfl

/-- A number is read, or refused. -/
def IsNumberResult : Except SyntaxError Lexeme → Prop
  | .ok l => l.kind.IsNumber
  | .error (.invalidNumber _ _) => True
  | .error _ => False

theorem not_number_of_ite {p : Prop} [Decidable p] {a b : Except SyntaxError Lexeme}
    (yes : p → ¬IsNumberResult a) (no : ¬IsNumberResult b) :
    ¬IsNumberResult (if p then a else b) := by
  split
  · next holds => exact yes holds
  · exact no

/-- Where no number literal starts, no number is read or refused. -/
theorem starts_of_lexeme (number : IsNumberResult (lexeme position c cs)) : StartsNumeral c cs := by
  by_contra none
  rw [StartsNumeral, not_or, not_and] at none
  obtain ⟨digit, sign⟩ := none
  revert number
  change ¬IsNumberResult (lexeme position c cs)
  rw [lexeme, if_neg digit]
  -- One branch for each kind of lexeme; those of strings and of signs say more than their kind.
  refine not_number_of_ite (fun _ => not_false) <| not_number_of_ite (fun _ => not_false) <|
    not_number_of_ite (fun _ => not_false) <| not_number_of_ite (fun _ => not_false) <|
    not_number_of_ite (fun _ => not_false) <| not_number_of_ite (fun _ => not_false) <|
    not_number_of_ite (fun _ => ?_) <| not_number_of_ite (fun signed => ?_) <|
    not_number_of_ite (fun _ => not_isNumber_nameKind _) not_false
  · split <;> exact not_false
  · rw [Bool.and_eq_true] at signed
    exact absurd signed.2 (sign (by simpa using signed.1))

/-- The longest literal is the lexeme, if it denotes something; otherwise it is refused. -/
theorem lexeme_of_longest (longest : LongestNumeral literal (c :: cs)) :
    lexeme position c cs = (numberKind literal (marksFloat literal)).elim
      (.error (.invalidNumber (String.ofList literal) position))
      fun kind => .ok ⟨kind, literal.length⟩ := by
  have float : (numberLength false cs).2 = marksFloat literal := by
    rw [longest.eq_take, marksFloat_of_starts longest.starts, float_of_numberLength false cs,
      Bool.false_or]
  have length : literal.length = (numberLength false cs).1 + 1 := by
    rw [longest.eq_take, List.length_cons, List.length_take_of_le (numberLength_le false cs)]
  rw [lexeme_of_starts longest.starts, numberLexeme]
  dsimp only
  rw [← longest.eq_take, float, length]
  cases numberKind literal (marksFloat literal) <;> rfl

end lexeme

/-! ## Texts -/

/-- The scan of a text comes to this literal and a position, which counts the bytes before it, and
does not find a longer one there. -/
inductive NumeralAt (rule : String) : Nat → List Char → Prop
  | mk {before literal rest : List Char} : rule.toList = before ++ (literal ++ rest) →
    Token.Reaches 0 rule.toList (byteLength before) (literal ++ rest) →
    LongestNumeral literal (literal ++ rest) → NumeralAt rule (byteLength before) literal

/-- The literal denotes nothing: it spells an integer of more than 64 bits, or has a point or a mark
and spells no decimal. -/
inductive Unfit (literal : List Char) : Prop
  | integer {n : Int} : marksFloat literal = false →
    SpellsInteger true (withoutUnderscores literal) n → ¬IntType.int64.Holds n → Unfit literal
  | decimal : marksFloat literal = true → (∀ negative digits exponent,
    ¬SpellsDecimal (withoutUnderscores literal) negative digits exponent) → Unfit literal

section text

variable {rule : String} {position : Nat} {literal : List Char}

theorem unfit_iff (numeral : IsNumeral literal) :
    Unfit literal ↔ numberKind literal (marksFloat literal) = none := by
  rw [Option.eq_none_iff_forall_ne_some]
  constructor
  · intro unfit k is
    have denotes := (numberKind_eq_some_iff numeral).mp is
    rcases unfit with ⟨whole, spells, exceeds⟩ | ⟨point, none⟩
    · rcases denotes with ⟨-, spells'⟩ | ⟨point, -⟩
      · have same := (readInteger_eq_some_iff.mpr spells).symm.trans
          (readInteger_eq_some_iff.mpr spells')
        cases same
        exact exceeds (holds_int64 _)
      · cases whole.symm.trans point
    · rcases denotes with ⟨whole, -⟩ | ⟨-, spells⟩
      · cases whole.symm.trans point
      · exact none _ _ _ spells
  · intro none
    cases float : marksFloat literal with
    | false =>
      obtain ⟨n, spells⟩ := numeral.spellsInteger float
      refine .integer float spells fun holds => ?_
      have word : int64? n = some (Int64.ofInt n) := if_pos holds
      rw [← int64?_eq_some_iff.mp word] at spells
      exact none _ ((numberKind_eq_some_iff numeral).mpr (.integer float spells))
    | true =>
      refine .decimal float fun negative digits exponent spells => ?_
      exact none _ ((numberKind_eq_some_iff numeral).mpr (.float float spells))

theorem numeralAt_iff : NumeralAt rule position literal ↔ ∃ text,
    Token.Reaches 0 rule.toList position text ∧ LongestNumeral literal text := by
  constructor
  · rintro ⟨-, reaches, longest⟩
    exact ⟨_, reaches, longest⟩
  · rintro ⟨text, reaches, longest⟩
    obtain ⟨before, is, rfl⟩ := reaches.exists_before
    obtain ⟨rest, rfl⟩ := longest.front
    rw [Nat.zero_add] at reaches ⊢
    exact .mk is reaches longest

/-- A number token stands where a literal does that denotes it. -/
theorem denotes_of_mem {ts : List Token} {t : Token} (scanned : Token.scan rule = .ok ts)
    (mem : t ∈ ts) (number : t.kind.IsNumber) :
    ∃ literal, NumeralAt rule t.position literal ∧ NumeralDenotes literal t.kind := by
  have more : t.kind ≠ .ending := by
    intro ending
    rw [ending] at number
    exact number
  obtain ⟨c, text, l, reaches, read, kind⟩ := Token.exists_lexeme_of_mem scanned mem more
  have read_number : IsNumberResult (lexeme t.position c text) := by
    rw [read, IsNumberResult, kind]
    exact number
  have longest := longest_of_numberLength (starts_of_lexeme read_number)
  refine ⟨_, numeralAt_iff.mpr ⟨_, reaches, longest⟩, ?_⟩
  rw [lexeme_of_longest longest] at read
  rw [← numberKind_eq_some_iff longest.numeral]
  cases is : numberKind _ _ with
  | none =>
    rw [is] at read
    cases read
  | some k =>
    rw [is] at read
    cases read
    exact congrArg some kind

/-- So every literal that the scan comes to is such a token. -/
theorem mem_of_numeralAt {ts : List Token} (scanned : Token.scan rule = .ok ts)
    (stands : NumeralAt rule position literal) :
    ∃ kind, NumeralDenotes literal kind ∧ ⟨kind, position⟩ ∈ ts := by
  obtain ⟨text, reaches, longest⟩ := numeralAt_iff.mp stands
  obtain ⟨c, rest, rfl⟩ := List.exists_cons_of_ne_nil longest.ne_nil
  obtain ⟨l, read, mem⟩ := Token.mem_of_reaches scanned reaches
  rw [lexeme_of_longest longest] at read
  cases is : numberKind literal (marksFloat literal) with
  | none =>
    rw [is] at read
    cases read
  | some kind =>
    rw [is] at read
    cases read
    exact ⟨kind, (numberKind_eq_some_iff longest.numeral).mp is, mem⟩

/-- A scan refuses a literal that it comes to and that denotes nothing. -/
theorem scan_eq_invalidNumber_iff {text : String} :
    Token.scan rule = .error (.invalidNumber text position) ↔
      NumeralAt rule position text.toList ∧ Unfit text.toList := by
  rw [Token.scan, Token.scanFrom_eq_error_iff, numeralAt_iff]
  constructor
  · rintro ⟨start, c, rest, reaches, refused⟩
    have refused_number : IsNumberResult (lexeme start c rest) := by
      rw [refused]
      exact trivial
    have longest := longest_of_numberLength (starts_of_lexeme refused_number)
    rw [lexeme_of_longest longest] at refused
    cases is : numberKind _ _ with
    | none =>
      rw [is] at refused
      cases refused
      rw [String.toList_ofList]
      exact ⟨⟨_, reaches, longest⟩, (unfit_iff longest.numeral).mpr is⟩
    | some k =>
      rw [is] at refused
      cases refused
  · rintro ⟨⟨rest, reaches, longest⟩, unfit⟩
    obtain ⟨c, rest, rfl⟩ := List.exists_cons_of_ne_nil longest.ne_nil
    refine ⟨position, c, rest, reaches, ?_⟩
    rw [lexeme_of_longest longest, (unfit_iff longest.numeral).mp unfit, String.ofList_toList]
    rfl

end text

/-- Every integer token of a text is the one that the longest number literal at its position spells
in decimal digits, underscores left out, and that literal has neither a point nor an exponent mark.
Every floating-point token is what becomes of the decimal that the longest literal at its position
spells, which has a point or a mark: if the decimal is less than `2 ^ 1024 - 2 ^ 970` in magnitude,
the token is a finite double and no other one is nearer to the decimal; otherwise it is infinite.
Every literal that the scan comes to is such a token.  A literal is refused, with its text and its
position, exactly if the scan comes to it and it spells an integer of more than 64 bits, or has a
point or a mark and does not spell a decimal. -/
theorem scan_numbers (rule : String) :
    (∀ ts, Token.scan rule = .ok ts →
      (∀ t ∈ ts,
        (∀ n, t.kind = .integer n → ∃ literal, NumeralAt rule t.position literal ∧
          marksFloat literal = false ∧
          SpellsInteger true (withoutUnderscores literal) n.toInt) ∧
        ∀ x, t.kind = .float x → ∃ literal negative digits exponent,
          NumeralAt rule t.position literal ∧ marksFloat literal = true ∧
          SpellsDecimal (withoutUnderscores literal) negative digits exponent ∧
          x = .ofDecimal negative digits exponent ∧
          ((digits : ℚ) * 10 ^ exponent < 2 ^ 1024 - 2 ^ 970 →
            Binary.Nearest (Binary.signed negative (digits * 10 ^ exponent)) x) ∧
          (2 ^ 1024 - 2 ^ 970 ≤ (digits : ℚ) * 10 ^ exponent → x = .infinite negative)) ∧
      ∀ position literal, NumeralAt rule position literal →
        ∃ kind, NumeralDenotes literal kind ∧ ⟨kind, position⟩ ∈ ts) ∧
    ∀ text position, Token.scan rule = .error (.invalidNumber text position) ↔
      NumeralAt rule position text.toList ∧ Unfit text.toList := by
  refine ⟨fun ts scanned => ⟨fun t mem => ⟨fun n is => ?_, fun x is => ?_⟩,
    fun position literal => mem_of_numeralAt scanned⟩,
    fun text position => scan_eq_invalidNumber_iff⟩
  · have number : t.kind.IsNumber := is ▸ trivial
    obtain ⟨literal, stands, denotes⟩ := denotes_of_mem scanned mem number
    rw [is] at denotes
    cases denotes with
    | integer whole spells => exact ⟨literal, stands, whole, spells⟩
  · have number : t.kind.IsNumber := is ▸ trivial
    obtain ⟨literal, stands, denotes⟩ := denotes_of_mem scanned mem number
    rw [is] at denotes
    cases denotes with
    | @float negative digits exponent point spells =>
      refine ⟨literal, negative, digits, exponent, stands, point, spells, rfl, fun below => ?_,
        fun above => ?_⟩
      · exact Binary.nearest_ofDecimal negative digits exponent
          ((Binary.isFinite_ofDecimal_iff negative digits exponent).mpr below)
      · refine (Binary.ofDecimal_finite_or negative digits exponent).resolve_left fun finite => ?_
        exact absurd ((Binary.isFinite_ofDecimal_iff negative digits exponent).mp finite)
          (not_lt.mpr above)

/-- An underscore between the digits is left out. -/
theorem scan_numbers_of_separated :
    Token.scan "-1_0" = .ok [⟨.integer (-10), 0⟩, ⟨.ending, 4⟩] ∧
      ∃ literal, NumeralAt "-1_0" 0 literal ∧ marksFloat literal = false ∧
        SpellsInteger true (withoutUnderscores literal) (-10) := by
  have read : lexeme 0 '-' ['1', '_', '0'] = .ok ⟨.integer (-10), 4⟩ := by rfl
  have integer : Token.next 0 ['-', '1', '_', '0'] = .ok (⟨.integer (-10), 0⟩, 4, []) :=
    Token.next_of_lexeme rfl rfl read
  have scanned : Token.scan "-1_0" = .ok [⟨.integer (-10), 0⟩, ⟨.ending, 4⟩] :=
    Token.scanFrom_next integer (by simp) (Token.scanFrom_ending (by rfl) rfl)
  exact ⟨scanned, (((scan_numbers "-1_0").1 _ scanned).1 _ List.mem_cons_self).1 (-10) rfl⟩

/-- A decimal that is too large becomes an infinite token, and the rule with it is accepted; an
integer that is too large is refused. -/
theorem scan_infinite :
    Token.scan "f(1e400)" = .ok [⟨.ident "f", 0⟩, ⟨.open, 1⟩, ⟨.float (.infinite false), 2⟩,
        ⟨.close, 7⟩, ⟨.ending, 8⟩] ∧
      (Binary.infinite false : Double).isFinite = false ∧
      Expr.parse "f(1e400)" = .ok (.call "f" [.float (.infinite false)]) ∧
      Token.scan "f(9223372036854775808)" = .error (.invalidNumber "9223372036854775808" 2) := by
  have read : lexeme 2 '1' ['e', '4', '0', '0', ')'] = .ok ⟨.float (.infinite false), 5⟩ := by rfl
  have float : Token.next 2 ['1', 'e', '4', '0', '0', ')'] =
      .ok (⟨.float (.infinite false), 2⟩, 7, [')']) :=
    Token.next_of_lexeme rfl rfl read
  have scanned : Token.scan "f(1e400)" = .ok [⟨.ident "f", 0⟩, ⟨.open, 1⟩,
      ⟨.float (.infinite false), 2⟩, ⟨.close, 7⟩, ⟨.ending, 8⟩] := by
    refine Token.scanFrom_next (by rfl) (by simp) ?_
    refine Token.scanFrom_next (by rfl) (by simp) ?_
    refine Token.scanFrom_next float (by simp) ?_
    refine Token.scanFrom_next (by rfl) (by simp) ?_
    exact Token.scanFrom_ending (by rfl) rfl
  have refused : lexeme 2 '9' "223372036854775808)".toList =
      .error (.invalidNumber "9223372036854775808" 2) := by
    decide +kernel
  have name : Token.next 0 "f(9223372036854775808)".toList =
      .ok (⟨.ident "f", 0⟩, 1, "(9223372036854775808)".toList) := by rfl
  have parenthesis : Token.next 1 "(9223372036854775808)".toList =
      .ok (⟨.open, 1⟩, 2, "9223372036854775808)".toList) := by rfl
  refine ⟨scanned, rfl, ?_, ?_⟩
  · rw [Expr.parse, scanned]
    rfl
  · exact Token.scanFrom_eq_error_iff.mpr
      ⟨2, '9', _, .later name (by simp) (.later parenthesis (by simp) .first), refused⟩

end RecordRules

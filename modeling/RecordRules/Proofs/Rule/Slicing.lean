import RecordRules.Proofs.Rule.Numbers

/-!
# The slices of a text

The tokens of a text cut it into slices, from the position of one token to that of the next.  A
slice is a lexeme with the blanks behind it (`IsLexeme`), and all of the text but the blanks in
front of the first token is in one of them.  What stands behind a slice makes no difference to its
token: the slice alone is scanned as that token (`scan_slices`).
-/

namespace RecordRules

/-! ## Lexemes alone -/

/-- The characters are a lexeme of the kind: a mark, a string between quotes, a number literal that
denotes a number, or a name. -/
inductive IsLexeme : TokenKind → List Char → Prop
  | open : IsLexeme .open ['(']
  | close : IsLexeme .close [')']
  | comma : IsLexeme .comma [',']
  | and : IsLexeme .and ['&', '&']
  | or : IsLexeme .or ['|', '|']
  | equal : IsLexeme .equal ['=', '=']
  | string {quote : Char} {cs value : List Char} : quote = '"' ∨ quote = '\'' →
    SpellsString quote cs value →
    IsLexeme (.string (String.ofList value)) (quote :: (cs ++ [quote]))
  | number {k : TokenKind} {literal : List Char} : IsNumeral literal → NumeralDenotes literal k →
    IsLexeme k literal
  | name {c : Char} {cs : List Char} : startsName c = true →
    (∀ d ∈ cs, continuesName d = true) → IsLexeme (nameKind (c :: cs)) (c :: cs)

/-- What is read as a lexeme, of all the characters that there are, is one. -/
theorem isLexeme_of_lexeme {position : Nat} {c : Char} {cs : List Char} {k : TokenKind}
    (read : lexeme position c cs = .ok ⟨k, cs.length + 1⟩) : IsLexeme k (c :: cs) := by
  generalize length : cs.length + 1 = n at read
  cases lexeme_eq_ok_iff.mp read with
  | single known =>
    obtain rfl : cs = [] := List.eq_nil_of_length_eq_zero (Nat.succ.inj length)
    simp only [singleMarks, List.mem_cons, List.not_mem_nil, or_false, Prod.mk.injEq] at known
    rcases known with ⟨rfl, rfl⟩ | ⟨rfl, rfl⟩ | ⟨rfl, rfl⟩
    · exact .open
    · exact .close
    · exact .comma
  | @double others _ known =>
    obtain rfl : others = [] :=
      List.eq_nil_of_length_eq_zero (Nat.succ.inj (Nat.succ.inj length))
    simp only [doubleMarks, List.mem_cons, List.not_mem_nil, or_false, Prod.mk.injEq] at known
    rcases known with ⟨rfl, rfl⟩ | ⟨rfl, rfl⟩ | ⟨rfl, rfl⟩
    · exact .and
    · exact .or
    · exact .equal
  | @string body value rest quote spells =>
    rw [List.length_append, List.length_cons] at length
    obtain rfl : rest = [] := List.eq_nil_of_length_eq_zero (by omega)
    exact .string quote spells
  | number starts read' =>
    have longest := longest_of_numberLength starts
    rw [lexeme_of_longest longest] at read
    cases is : numberKind _ _ with
    | none =>
      rw [is] at read
      cases read
    | some kind =>
      rw [is] at read
      obtain ⟨rfl, same⟩ := Lexeme.mk.inj (Except.ok.inj read)
      have whole := longest.front.eq_of_length (same.trans length.symm)
      rw [whole] at is longest
      exact .number longest.numeral ((numberKind_eq_some_iff longest.numeral).mp is)
  | @name name rest starts goes ends =>
    rw [List.length_append] at length
    obtain rfl : rest = [] := List.eq_nil_of_length_eq_zero (by omega)
    rw [List.append_nil]
    exact .name starts goes

/-! ## Slices -/

/-- The text from one token to the next one: a lexeme of its kind and blanks, which are scanned as
the token if they stand alone. -/
structure IsSlice (text : List Char) (t next : Token) (slice : List Char) : Prop where
  cut : slice? text t.position next.position = some slice
  parts : ∃ word blanks, slice = word ++ blanks ∧ IsLexeme t.kind word ∧
    ∀ c ∈ blanks, isBlank c = true
  alone : Token.scan (String.ofList slice) = .ok [⟨t.kind, 0⟩, ⟨.ending, byteLength slice⟩]

/-- A word and the blanks behind it do not need what follows them. -/
theorem isSlice_of_word {before cs blanks rest : List Char} {c : Char} {k : TokenKind}
    {next : Token} (word : Word k c cs (blanks ++ rest)) (allBlank : ∀ c ∈ blanks, isBlank c = true)
    (here : next.position = byteLength before + byteLength (c :: cs ++ blanks)) :
    IsSlice (before ++ (c :: cs ++ blanks ++ rest)) ⟨k, byteLength before⟩ next
      (c :: cs ++ blanks) := by
  have beside : Beside (blanks ++ rest) blanks := by
    cases blanks with
    | nil => exact fun c cs is => by cases is
    | cons d blanks => exact beside_cons (ne_point_of_blank (allBlank d List.mem_cons_self)) _ _
  have none : Beside blanks [] := fun c cs is => by cases is
  have alone := word.beside beside
  have whole := (alone.beside none).read 0
  rw [List.append_nil] at whole
  have lies : Lies 0 (c :: (cs ++ blanks)) [⟨k, 0⟩, ⟨.ending, byteLength (c :: cs ++ blanks)⟩] := by
    have ends : Lies (0 + byteLength (c :: cs)) blanks
        [⟨.ending, 0 + byteLength (c :: cs) + byteLength blanks⟩] := .ending allBlank
    rw [Nat.zero_add, ← byteLength_append, ← Nat.zero_add (byteLength (c :: cs))] at ends
    have none : ∀ c ∈ ([] : List Char), isBlank c = true := by simp
    exact .token none alone ends
  refine ⟨?_, ⟨c :: cs, blanks, rfl, isLexeme_of_lexeme whole, allBlank⟩, ?_⟩
  · rw [here]
    exact slice?_append before _ rest
  · rw [Token.scan, String.toList_ofList]
    exact scanFrom_of_lies lies

/-- The text is made of the slices, with blanks in front. -/
theorem Lies.slices {text : List Char} {ts : List Token} {before : List Char}
    (lies : Lies (byteLength before) text ts) :
    ∃ lead slices, text = lead ++ slices.flatten ∧ (∀ c ∈ lead, isBlank c = true) ∧
      ts.head?.map Token.position = some (byteLength before + byteLength lead) ∧
      List.Forall₂ (fun pair slice => IsSlice (before ++ text) pair.1 pair.2 slice)
        (ts.zip ts.tail) slices := by
  generalize position : byteLength before = start at lies
  induction lies generalizing before with
  | @ending _ blanks allBlank =>
    exact ⟨blanks, [], (List.append_nil _).symm, allBlank, rfl, .nil⟩
  | @token _ blanks cs text c k ts allBlank word others ih =>
    subst position
    have start : byteLength (before ++ (blanks ++ c :: cs)) =
        byteLength before + byteLength (blanks ++ c :: cs) := byteLength_append _ _
    obtain ⟨lead, slices, split, leadBlank, head, each⟩ := ih start
    cases ts with
    | nil => cases head
    | cons next ts =>
      have here : next.position =
          byteLength before + byteLength (blanks ++ c :: cs) + byteLength lead :=
        Option.some.inj head
      have whole : before ++ (blanks ++ c :: (cs ++ text)) =
          before ++ (blanks ++ c :: cs) ++ text := by
        simp only [List.append_assoc, List.cons_append]
      refine ⟨blanks, (c :: cs ++ lead) :: slices, ?_, allBlank, rfl, .cons ?_ ?_⟩
      · rw [List.flatten_cons, split]
        simp only [List.append_assoc, List.cons_append]
      · rw [split] at word
        have cut : before ++ (blanks ++ c :: (cs ++ text)) =
            before ++ blanks ++ (c :: cs ++ lead ++ slices.flatten) := by
          rw [split]
          simp only [List.append_assoc, List.cons_append]
        have here' : next.position =
            byteLength (before ++ blanks) + byteLength (c :: cs ++ lead) := by
          rw [here]
          simp only [byteLength_append, Nat.add_assoc]
        rw [cut, ← byteLength_append]
        exact isSlice_of_word word leadBlank here'
      · rw [whole]
        exact each

/-- The tokens of a text end in its end, which stands behind all bytes, and nowhere else; each of
them stands on a character boundary, behind the ones before it.  There are blanks in front of the
first token, and after them the text is cut without a gap into a slice for each token but the end.
A slice is a lexeme of the token with the blanks behind it, and alone it is scanned as that
token. -/
theorem scan_slices {rule : String} {ts : List Token} (scanned : Token.scan rule = .ok ts) :
    (∃ body, ts = body ++ [⟨.ending, byteLength rule.toList⟩] ∧ ∀ t ∈ body, t.kind ≠ .ending) ∧
    (ts.Pairwise fun t u => t.position < u.position) ∧
    (∀ t ∈ ts, ∃ before after, splitAtByte? t.position rule.toList = some (before, after)) ∧
    ∃ lead slices, rule.toList = lead ++ slices.flatten ∧ (∀ c ∈ lead, isBlank c = true) ∧
      ts.head?.map Token.position = some (byteLength lead) ∧
      List.Forall₂ (fun pair slice => IsSlice rule.toList pair.1 pair.2 slice)
        (ts.zip ts.tail) slices := by
  have lies := lies_of_scanFrom scanned
  refine ⟨?_, lies.pairwise, fun t mem => ?_, ?_⟩
  · have ends := lies.ends
    rwa [Nat.zero_add] at ends
  · obtain ⟨before, after, split, here⟩ := lies.exists_before mem
    rw [Nat.zero_add] at here
    exact ⟨before, after, splitAtByte?_eq_some_iff.mpr ⟨split, here.symm⟩⟩
  · have lies : Lies (byteLength []) rule.toList ts := lies
    obtain ⟨lead, slices, split, allBlank, first, each⟩ := lies.slices
    rw [byteLength, Nat.zero_add] at first
    exact ⟨lead, slices, split, allBlank, first, each⟩

/-- A string with a quote of the other kind in it, a number, a mark, blanks and a name. -/
theorem scan_slices_of_adjacent :
    let text := " '\"é'-7||\t\nx "
    Token.scan text = .ok [⟨.string "\"é", 1⟩, ⟨.integer (-7), 6⟩, ⟨.or, 8⟩, ⟨.ident "x", 12⟩,
        ⟨.ending, 14⟩] ∧
      IsSlice text.toList ⟨.or, 8⟩ ⟨.ident "x", 12⟩ "||\t\n".toList := by
  intro text
  have string : Token.next 0 " '\"é'-7||\t\nx ".toList =
      .ok (⟨.string "\"é", 1⟩, 6, "-7||\t\nx ".toList) := by decide +kernel
  have number : Token.next 6 "-7||\t\nx ".toList =
      .ok (⟨.integer (-7), 6⟩, 8, "||\t\nx ".toList) := by decide +kernel
  have or : Token.next 8 "||\t\nx ".toList = .ok (⟨.or, 8⟩, 10, "\t\nx ".toList) := by
    decide +kernel
  have name : Token.next 10 "\t\nx ".toList = .ok (⟨.ident "x", 12⟩, 13, " ".toList) := by
    decide +kernel
  have ending : Token.next 13 " ".toList = .ok (⟨.ending, 14⟩, 14, []) := by decide +kernel
  have scanned : Token.scan text = .ok [⟨.string "\"é", 1⟩, ⟨.integer (-7), 6⟩, ⟨.or, 8⟩,
      ⟨.ident "x", 12⟩, ⟨.ending, 14⟩] :=
    Token.scanFrom_next string nofun <| Token.scanFrom_next number nofun <|
      Token.scanFrom_next or nofun <| Token.scanFrom_next name nofun <|
        Token.scanFrom_ending ending rfl
  obtain ⟨-, -, -, lead, slices, -, -, -, each⟩ := scan_slices scanned
  simp only [List.tail_cons, List.zip_cons_cons, List.forall₂_cons_left_iff] at each
  obtain ⟨_, _, -, ⟨_, _, -, ⟨slice, _, is, -, rfl⟩, rfl⟩, rfl⟩ := each
  have cut : slice? text.toList 8 12 = some "||\t\n".toList := by decide +kernel
  rw [Option.some.inj (is.cut.symm.trans cut)] at is
  exact ⟨scanned, is⟩

end RecordRules

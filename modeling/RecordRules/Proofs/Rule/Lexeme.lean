import RecordRules.Proofs.Rule.Spelling

/-!
# Lexemes

A lexeme is a mark, a string, a number or a name, and nothing else (`lexeme_eq_ok_iff`).  Scanners
look past a lexeme for what could go on it, so a lexeme is one only together with the text behind
it.  That text may be exchanged for one that starts with the same character or with a parenthesis
(`lexeme_beside`).
-/

namespace RecordRules

/-! ## Kinds of lexemes -/

/-- The characters that are a lexeme by themselves. -/
def singleMarks : List (Char × TokenKind) :=
  [('(', .open), (')', .close), (',', .comma)]

/-- The characters that are a lexeme if they stand twice. -/
def doubleMarks : List (Char × TokenKind) :=
  [('&', .and), ('|', .or), ('=', .equal)]

/-- A number literal starts here: with a digit, or with a sign in front of one. -/
def StartsNumeral (c : Char) (cs : List Char) : Prop :=
  c.isDigit = true ∨ (c = '-' ∨ c = '+') ∧ startsWithDigit cs = true

/-- What a character and the text behind it are read as.  A name goes as far as it can. -/
inductive ReadsLexeme (position : Nat) (c : Char) : List Char → Lexeme → Prop
  | single {cs : List Char} {k : TokenKind} : (c, k) ∈ singleMarks →
    ReadsLexeme position c cs ⟨k, 1⟩
  | double {cs : List Char} {k : TokenKind} : (c, k) ∈ doubleMarks →
    ReadsLexeme position c (c :: cs) ⟨k, 2⟩
  | string {cs value rest : List Char} : c = '"' ∨ c = '\'' → SpellsString c cs value →
    ReadsLexeme position c (cs ++ c :: rest) ⟨.string (String.ofList value), cs.length + 2⟩
  | number {cs : List Char} {l : Lexeme} : StartsNumeral c cs →
    numberLexeme position c cs = .ok l → ReadsLexeme position c cs l
  | name {cs rest : List Char} : startsName c = true → (∀ d ∈ cs, continuesName d = true) →
    EndsName rest → ReadsLexeme position c (cs ++ rest) ⟨nameKind (c :: cs), cs.length + 1⟩

section kinds

variable {position : Nat} {c : Char} {cs : List Char} {l : Lexeme}

theorem lexeme_of_starts (starts : StartsNumeral c cs) :
    lexeme position c cs = numberLexeme position c cs := by
  rcases starts with digit | ⟨rfl | rfl, digit⟩
  · exact lexeme_digit digit cs
  · rw [lexeme, digit]
    rfl
  · rw [lexeme, digit]
    rfl

theorem readsLexeme_double {mark : Char} {k : TokenKind} (known : (mark, k) ∈ doubleMarks)
    (next : (decide (c = mark) && decide (cs.head? = some mark)) = true) :
    ReadsLexeme position c cs ⟨k, 2⟩ := by
  rw [Bool.and_eq_true, decide_eq_true_eq, decide_eq_true_eq] at next
  obtain ⟨rfl, head⟩ := next
  obtain ⟨others, rfl⟩ := List.head?_eq_some_iff.mp head
  exact .double known

theorem exists_name (cs : List Char) : ∃ name rest, cs = name ++ rest ∧
    cs.takeWhile continuesName = name ∧ (∀ d ∈ name, continuesName d = true) ∧ EndsName rest := by
  refine ⟨cs.takeWhile continuesName, cs.dropWhile continuesName,
    List.takeWhile_append_dropWhile.symm, rfl, fun d mem => of_mem_takeWhile mem, ?_⟩
  intro d rest goes
  have head := List.head?_dropWhile_not continuesName cs
  rw [goes] at head
  simpa using head

/-- What is read as a lexeme is of one of these kinds. -/
theorem readsLexeme_of_lexeme (read : lexeme position c cs = .ok l) :
    ReadsLexeme position c cs l := by
  rw [lexeme] at read
  split at read
  · next is =>
    cases read
    exact .single (by simp [is, singleMarks])
  split at read
  · next is =>
    cases read
    exact .single (by simp [is, singleMarks])
  split at read
  · next is =>
    cases read
    exact .single (by simp [is, singleMarks])
  split at read
  · next next =>
    cases read
    exact readsLexeme_double (by decide) next
  split at read
  · next next =>
    cases read
    exact readsLexeme_double (by decide) next
  split at read
  · next next =>
    cases read
    exact readsLexeme_double (by decide) next
  split at read
  · next quote =>
    split at read
    · next value n body =>
      cases read
      obtain ⟨body, rest, rfl, spells, rfl⟩ := spells_of_stringBody cs body
      exact .string (by simpa using quote) spells
    · cases read
  split at read
  · next signed =>
    rw [Bool.and_eq_true] at signed
    exact .number (.inr ⟨by simpa using signed.1, signed.2⟩) read
  split at read
  · next digit => exact .number (.inl digit) read
  split at read
  · next starts =>
    cases read
    obtain ⟨name, rest, rfl, taken, goes, ends⟩ := exists_name cs
    rw [taken]
    exact .name starts goes ends
  · cases read

/-- A character and the text behind it are read as a lexeme of one of these kinds, or not at
all. -/
theorem lexeme_eq_ok_iff : lexeme position c cs = .ok l ↔ ReadsLexeme position c cs l := by
  refine ⟨readsLexeme_of_lexeme, fun reads => ?_⟩
  cases reads with
  | single known =>
    simp only [singleMarks, List.mem_cons, List.not_mem_nil, or_false, Prod.mk.injEq] at known
    rcases known with ⟨rfl, rfl⟩ | ⟨rfl, rfl⟩ | ⟨rfl, rfl⟩ <;> rfl
  | double known =>
    simp only [doubleMarks, List.mem_cons, List.not_mem_nil, or_false, Prod.mk.injEq] at known
    rcases known with ⟨rfl, rfl⟩ | ⟨rfl, rfl⟩ | ⟨rfl, rfl⟩ <;> rfl
  | @string cs value rest quote spells =>
    have other : '\\' ≠ c := by
      rintro rfl
      exact absurd quote (by decide)
    have body := spells.read other rest
    rcases quote with rfl | rfl <;> simp [lexeme, body]
  | number starts read => rw [lexeme_of_starts starts, read]
  | name starts goes ends => exact lexeme_name starts goes ends

end kinds

/-- In place of a text that lexemes do not go on into, the other one can stand: if it is not empty,
it starts with a parenthesis or with the same character. -/
def Beside (rest rest' : List Char) : Prop :=
  ∀ c cs, rest' = c :: cs → c = '(' ∨ c = ')' ∨ rest.head? = some c ∧ c ≠ '.'

section beside

variable {rest rest' : List Char} {position : Nat} {c : Char} {cs : List Char} {k : TokenKind}

/-! ## Other text behind a number -/

/-- The character does not go on a number, unless it is a point. -/
def StopsNumber (c : Char) : Prop :=
  (c.isDigit || c = '_') = false ∧ c ≠ 'e' ∧ c ≠ 'E'

instance : DecidablePred StopsNumber :=
  fun _ => inferInstanceAs (Decidable (_ ∧ _))

/-- The text does not start with a sign. -/
def Unsigned (cs : List Char) : Prop :=
  ∀ s rest, cs = s :: rest → (s = '-' || s = '+') = false

theorem unsigned_or_signed (cs : List Char) :
    Unsigned cs ∨ ∃ s rest, cs = s :: rest ∧ (s = '-' || s = '+') = true := by
  cases cs with
  | nil => exact .inl fun s rest is => by cases is
  | cons s rest =>
    cases sign : (s = '-' || s = '+') with
    | true => exact .inr ⟨s, rest, rfl, sign⟩
    | false =>
      refine .inl ?_
      rintro _ _ ⟨⟩
      exact sign

theorem numberLength_digit {float : Bool} (goes : (c.isDigit || c = '_') = true) :
    numberLength float (c :: cs) =
      ((numberLength float cs).1 + 1, (numberLength float cs).2) := by
  rw [numberLength.eq_def]
  simp only [if_pos goes]

theorem numberLength_point (digit : startsWithDigit cs = true) :
    numberLength false ('.' :: cs) = ((numberLength true cs).1 + 1, (numberLength true cs).2) := by
  rw [numberLength.eq_def]
  simp [digit]

theorem numberLength_mark {float : Bool} (mark : c = 'e' ∨ c = 'E') (no_sign : Unsigned cs) :
    numberLength float (c :: cs) = ((numberLength true cs).1 + 1, (numberLength true cs).2) := by
  rw [numberLength.eq_def]
  cases cs with
  | nil => rcases mark with rfl | rfl <;> rfl
  | cons s cs =>
    have other := no_sign s cs rfl
    rcases mark with rfl | rfl <;> simp [other]

theorem numberLength_sign {float : Bool} (mark : c = 'e' ∨ c = 'E') {s : Char}
    (sign : (s = '-' || s = '+') = true) :
    numberLength float (c :: s :: cs) =
      ((numberLength true cs).1 + 2, (numberLength true cs).2) := by
  rw [numberLength.eq_def]
  rcases mark with rfl | rfl <;> simp [sign]

theorem numberLength_stop {float : Bool} (stops : StopsNumber c) (no_point : c ≠ '.') :
    numberLength float (c :: cs) = (0, float) := by
  rw [numberLength.eq_def]
  simp [stops.1, stops.2, no_point]

/-- What a number does with the first character of a text. -/
theorem numberLength_cases (float : Bool) (c : Char) (cs : List Char) :
    (c.isDigit || c = '_') = true ∨ float = false ∧ c = '.' ∧ startsWithDigit cs = true ∨
      (c = 'e' ∨ c = 'E') ∨ StopsNumber c ∧ numberLength float (c :: cs) = (0, float) := by
  by_cases digit : (c.isDigit || c = '_') = true
  · exact .inl digit
  · by_cases mark : c = 'e' ∨ c = 'E'
    · exact .inr (.inr (.inl mark))
    · rw [not_or] at mark
      have stops : StopsNumber c := ⟨by simpa using digit, mark⟩
      by_cases point : c = '.'
      · by_cases goes : float = false ∧ startsWithDigit cs = true
        · exact .inr (.inl ⟨goes.1, point, goes.2⟩)
        · refine .inr (.inr (.inr ⟨stops, ?_⟩))
          rw [numberLength.eq_def]
          simp_all [StopsNumber]
      · exact .inr (.inr (.inr ⟨stops, numberLength_stop stops point⟩))

/-- A number ends where its characters do, or before one that does not go on it. -/
theorem numberLength_eq_zero {float float' : Bool} (none : numberLength float rest = (0, float')) :
    float' = float ∧ ∀ c cs, rest = c :: cs → StopsNumber c := by
  cases rest with
  | nil => exact ⟨(Prod.mk.inj none).2.symm, fun c cs is => by cases is⟩
  | cons c cs =>
    rcases numberLength_cases float c cs with digit | ⟨rfl, rfl, digit⟩ | mark | ⟨stops, is⟩
    · rw [numberLength_digit digit] at none
      cases none
    · rw [numberLength_point digit] at none
      cases none
    · rcases unsigned_or_signed cs with no_sign | ⟨s, rest, rfl, sign⟩
      · rw [numberLength_mark mark no_sign] at none
        cases none
      · rw [numberLength_sign mark sign] at none
        cases none
    · refine ⟨(Prod.mk.inj (none.symm.trans is)).2, ?_⟩
      rintro _ _ ⟨⟩
      exact stops

theorem numberLength_beside_nil (beside : Beside rest rest') {float float' : Bool}
    (none : numberLength float rest = (0, float')) : numberLength float rest' = (0, float') := by
  obtain ⟨rfl, stops⟩ := numberLength_eq_zero none
  cases rest' with
  | nil => rfl
  | cons c cs =>
    rcases beside c cs rfl with rfl | rfl | ⟨same, no_point⟩
    · exact numberLength_stop (by decide) (by decide)
    · exact numberLength_stop (by decide) (by decide)
    · obtain ⟨others, rfl⟩ := List.head?_eq_some_iff.mp same
      exact numberLength_stop (stops _ _ rfl) no_point

theorem unsigned_beside (beside : Beside rest rest') (no_sign : Unsigned rest) :
    Unsigned rest' := by
  rintro s others rfl
  rcases beside s others rfl with rfl | rfl | ⟨same, -⟩
  · decide
  · decide
  · obtain ⟨others', rfl⟩ := List.head?_eq_some_iff.mp same
    exact no_sign s others' rfl

/-- The number ends where it did. -/
theorem numberLength_beside (beside : Beside rest rest') (cs : List Char) {float float' : Bool}
    (taken : numberLength float (cs ++ rest) = (cs.length, float')) :
    numberLength float (cs ++ rest') = (cs.length, float') := by
  match cs with
  | [] => exact numberLength_beside_nil beside taken
  | c :: cs =>
    rw [List.cons_append] at taken ⊢
    rcases numberLength_cases float c (cs ++ rest) with digit | ⟨rfl, rfl, digit⟩ | mark | ⟨-, is⟩
    · rw [numberLength_digit digit] at taken ⊢
      obtain ⟨length, float⟩ := Prod.mk.inj taken
      have later := numberLength_beside beside cs (Prod.ext (Nat.succ.inj length) float)
      rw [later, List.length_cons]
    · rw [numberLength_point digit] at taken
      obtain ⟨length, float⟩ := Prod.mk.inj taken
      have ends : numberLength true (cs ++ rest) = (cs.length, float') :=
        Prod.ext (Nat.succ.inj length) float
      have digit' : startsWithDigit (cs ++ rest') = true := by
        cases cs with
        | cons d cs => exact digit
        | nil =>
          cases rest with
          | nil => cases digit
          | cons d rest =>
            have stops := (numberLength_eq_zero ends).2 d rest rfl
            rw [StopsNumber, show d.isDigit = true from digit] at stops
            exact absurd stops.1 (by simp)
      rw [numberLength_point digit', numberLength_beside beside cs ends, List.length_cons]
    · match cs with
      | [] =>
        rw [List.nil_append] at taken ⊢
        rcases unsigned_or_signed rest with no_sign | ⟨s, others, rfl, sign⟩
        · rw [numberLength_mark mark no_sign] at taken
          obtain ⟨length, float⟩ := Prod.mk.inj taken
          have later := numberLength_beside_nil beside (Prod.ext (Nat.succ.inj length) float)
          rw [numberLength_mark mark (unsigned_beside beside no_sign), later]
          rfl
        · rw [numberLength_sign mark sign] at taken
          cases taken
      | s :: cs =>
        rw [List.cons_append] at taken ⊢
        by_cases sign : (s = '-' || s = '+') = true
        · rw [numberLength_sign mark sign] at taken ⊢
          obtain ⟨length, float⟩ := Prod.mk.inj taken
          have ends : numberLength true (cs ++ rest) = (cs.length, float') :=
            Prod.ext (Nat.add_right_cancel length) float
          rw [numberLength_beside beside cs ends]
          rfl
        · have no_sign : ∀ others, Unsigned (s :: others) := by
            rintro others _ _ ⟨⟩
            simpa using sign
          rw [numberLength_mark mark (no_sign _)] at taken ⊢
          obtain ⟨length, float⟩ := Prod.mk.inj taken
          have ends : numberLength true (s :: cs ++ rest) = ((s :: cs).length, float') :=
            Prod.ext (Nat.succ.inj length) float
          rw [← List.cons_append, numberLength_beside beside (s :: cs) ends]
          rfl
    · cases taken.symm.trans is

theorem numberLength_le (float : Bool) (cs : List Char) :
    (numberLength float cs).1 ≤ cs.length := by
  match cs with
  | [] => exact Nat.le_refl 0
  | c :: cs =>
    rcases numberLength_cases float c cs with digit | ⟨rfl, rfl, digit⟩ | mark | ⟨-, is⟩
    · rw [numberLength_digit digit]
      exact Nat.succ_le_succ (numberLength_le _ cs)
    · rw [numberLength_point digit]
      exact Nat.succ_le_succ (numberLength_le _ cs)
    · rcases unsigned_or_signed cs with no_sign | ⟨s, cs, rfl, sign⟩
      · rw [numberLength_mark mark no_sign]
        exact Nat.succ_le_succ (numberLength_le _ cs)
      · rw [numberLength_sign mark sign]
        exact Nat.add_le_add_right (numberLength_le _ cs) 2
    · rw [is]
      exact Nat.zero_le _

theorem numberLexeme_beside (beside : Beside rest rest')
    (read : numberLexeme position c (cs ++ rest) = .ok ⟨k, cs.length + 1⟩) :
    numberLexeme position c (cs ++ rest') = .ok ⟨k, cs.length + 1⟩ := by
  rcases taken : numberLength false (cs ++ rest) with ⟨n, float⟩
  simp only [numberLexeme, taken] at read
  split at read
  · next kind is =>
    cases read
    have taken' := numberLength_beside beside cs taken
    rw [List.take_left] at is
    simp only [numberLexeme, taken', List.take_left, is]
  · cases read

/-! ## Other text behind a lexeme -/

theorem endsName_beside (beside : Beside rest rest') (ends : EndsName rest) : EndsName rest' := by
  rintro c others rfl
  rcases beside c others rfl with rfl | rfl | ⟨same, -⟩
  · decide
  · decide
  · obtain ⟨others', rfl⟩ := List.head?_eq_some_iff.mp same
    exact ends c others' rfl

theorem numberLexeme_single (digit : startsWithDigit rest = true) :
    numberLexeme position c rest ≠ .ok ⟨k, 1⟩ := by
  intro read
  rcases taken : numberLength false rest with ⟨n, float⟩
  simp only [numberLexeme, taken] at read
  split at read
  · cases read
    cases rest with
    | nil => cases digit
    | cons d rest =>
      have stops := (numberLength_eq_zero taken).2 d rest rfl
      rw [StopsNumber, show d.isDigit = true from digit] at stops
      exact absurd stops.1 (by simp)
  · cases read

theorem numberLexeme_position {l : Lexeme} (read : numberLexeme position c cs = .ok l)
    (position' : Nat) : numberLexeme position' c cs = .ok l := by
  simp only [numberLexeme] at read ⊢
  split at read
  · exact read
  · cases read

/-- A lexeme is the same wherever it stands. -/
theorem lexeme_position {l : Lexeme} (read : lexeme position c cs = .ok l) (position' : Nat) :
    lexeme position' c cs = .ok l := by
  rw [lexeme_eq_ok_iff] at read ⊢
  cases read with
  | single known => exact .single known
  | double known => exact .double known
  | string quote spells => exact .string quote spells
  | number starts read => exact .number starts (numberLexeme_position read position')
  | name starts goes ends => exact .name starts goes ends

/-- A lexeme is read again with another text behind it. -/
theorem lexeme_beside (beside : Beside rest rest')
    (read : lexeme position c (cs ++ rest) = .ok ⟨k, cs.length + 1⟩) :
    lexeme position c (cs ++ rest') = .ok ⟨k, cs.length + 1⟩ := by
  rw [lexeme_eq_ok_iff] at read ⊢
  generalize whole : cs ++ rest = text at read
  generalize length : cs.length + 1 = n at read ⊢
  cases read with
  | single known => exact .single known
  | @double others _ known =>
    obtain ⟨d, rfl⟩ := List.length_eq_one_iff.mp (Nat.succ.inj length)
    cases whole
    exact .double known
  | @string body value others quote spells =>
    have split : cs ++ rest = (body ++ [c]) ++ others := by rw [whole, List.append_assoc]; rfl
    have same : cs.length = (body ++ [c]).length := by
      rw [List.length_append]
      exact Nat.succ.inj length
    obtain ⟨rfl, -⟩ := List.append_inj split same
    rw [List.append_assoc]
    exact .string quote spells
  | number starts read =>
    subst whole length
    refine .number ?_ (numberLexeme_beside beside read)
    refine starts.imp_right fun ⟨sign, digit⟩ => ⟨sign, ?_⟩
    cases cs with
    | nil => exact absurd read (numberLexeme_single digit)
    | cons d cs => exact digit
  | @name name others starts goes ends =>
    obtain ⟨rfl, rfl⟩ := List.append_inj whole (Nat.succ.inj length)
    exact .name starts goes (endsName_beside beside ends)

theorem numberKind_ne_ending {text : List Char} {float : Bool}
    (is : numberKind text float = some k) : k ≠ .ending := by
  rintro rfl
  rw [numberKind] at is
  split at is
  · obtain ⟨x, -, is⟩ := Option.map_eq_some_iff.mp is
    cases is
  · obtain ⟨n, -, is⟩ := Option.map_eq_some_iff.mp is
    cases is

theorem nameKind_ne_ending (name : List Char) : nameKind name ≠ .ending := by
  rw [nameKind]
  split <;> simp

theorem numberLexeme_fits {l : Lexeme} (read : numberLexeme position c cs = .ok l) :
    l.length ≤ cs.length + 1 ∧ l.kind ≠ .ending := by
  have bound := numberLength_le false cs
  simp only [numberLexeme] at read
  split at read
  · next is =>
    cases read
    exact ⟨Nat.succ_le_succ bound, numberKind_ne_ending is⟩
  · cases read

/-- A lexeme is part of the text, and not the end of it. -/
theorem lexeme_fits {l : Lexeme} (read : lexeme position c cs = .ok l) :
    l.length ≤ cs.length + 1 ∧ l.kind ≠ .ending := by
  have marks : ∀ mark ∈ singleMarks ++ doubleMarks, mark.2 ≠ .ending := by decide
  cases lexeme_eq_ok_iff.mp read with
  | single known =>
    exact ⟨Nat.succ_le_succ (Nat.zero_le _), marks _ (List.mem_append_left _ known)⟩
  | double known => exact ⟨by simp, marks _ (List.mem_append_right _ known)⟩
  | string quote spells => exact ⟨by simp, by simp⟩
  | number _ read => exact numberLexeme_fits read
  | name _ _ _ => exact ⟨by simp, nameKind_ne_ending _⟩

end beside

end RecordRules

import RecordRules.Proofs.Except
import RecordRules.Proofs.Rule.Lexeme
import RecordRules.Proofs.Text.Utf8

/-!
# The words of a text

A text that is scanned consists of the words of its tokens, with blanks between them, and at its end
there is the one token that ends it (`lies_of_scanFrom`, `scanFrom_of_lies`).  Which words a text is
read as does not depend on its position (`Lexed`): a text that is read as words is scanned as them
(`scanFrom_of_lexed`), and a text that is written in words that keep apart is read as them
(`lexed_of_written`).
-/

namespace RecordRules

/-! ## One token -/

namespace Token

section next

variable {position after start : Nat} {cs rest : List Char} {c : Char} {t : Token} {e : SyntaxError}

theorem next_of_dropBlanks (left : dropBlanks cs = c :: rest) :
    next position cs =
      (lexeme (position + byteLength (cs.takeWhile isBlank)) c rest).map fun l =>
        (⟨l.kind, position + byteLength (cs.takeWhile isBlank)⟩,
          position + byteLength (cs.takeWhile isBlank) + byteLength ((c :: rest).take l.length),
          (c :: rest).drop l.length) := by
  rw [next, left]

theorem next_of_lexeme {l : Lexeme} (left : dropBlanks cs = c :: rest)
    (here : position + byteLength (cs.takeWhile isBlank) = start)
    (read : lexeme start c rest = .ok l) :
    next position cs = .ok (⟨l.kind, start⟩, start + byteLength ((c :: rest).take l.length),
      (c :: rest).drop l.length) := by
  rw [next_of_dropBlanks left, here, read]
  rfl

theorem scanFrom_of_error (fails : next position cs = .error e) :
    scanFrom position cs = .error e := by
  rw [scanFrom]
  split
  · next h =>
    rw [fails] at h
    cases h
    rfl
  · next h =>
    rw [fails] at h
    cases h

theorem scanFrom_of_next (taken : next position cs = .ok (t, after, rest))
    (more : t.kind ≠ .ending) : scanFrom position cs = (scanFrom after rest).map (t :: ·) := by
  rw [scanFrom]
  split
  · next h =>
    rw [taken] at h
    cases h
  · next h =>
    rw [taken] at h
    cases h
    rw [dif_neg more]

end next

end Token

/-! ## Words of a text -/

/-- The characters are a word of the text that they begin, wherever that text stands. -/
structure Word (k : TokenKind) (c : Char) (cs text : List Char) : Prop where
  not_blank : isBlank c = false
  read : ∀ position, lexeme position c (cs ++ text) = .ok ⟨k, cs.length + 1⟩

/-- The text consists of words of these kinds, in order, with blanks before, between and after
them. -/
inductive Lexed : List TokenKind → List Char → Prop
  | nil {blanks : List Char} : (∀ c ∈ blanks, isBlank c = true) → Lexed [] blanks
  | cons {blanks word text : List Char} {c : Char} {k : TokenKind} {ks : List TokenKind} :
    (∀ c ∈ blanks, isBlank c = true) → Word k c word text → Lexed ks text →
    Lexed (k :: ks) (blanks ++ c :: (word ++ text))

/-- The tokens lie in the text in this order, from a position on, each of them the word at its
position, with nothing but blanks before, between and after them; the last one is the end. -/
inductive Lies : Nat → List Char → List Token → Prop
  | ending {position : Nat} {blanks : List Char} : (∀ c ∈ blanks, isBlank c = true) →
    Lies position blanks [⟨.ending, position + byteLength blanks⟩]
  | token {position : Nat} {blanks cs text : List Char} {c : Char} {k : TokenKind}
      {ts : List Token} : (∀ c ∈ blanks, isBlank c = true) → Word k c cs text →
    Lies (position + byteLength (blanks ++ c :: cs)) text ts →
    Lies position (blanks ++ c :: (cs ++ text)) (⟨k, position + byteLength blanks⟩ :: ts)

section words

variable {position after : Nat} {text rest : List Char} {t : Token} {ts : List Token}

theorem Word.ne_ending {k : TokenKind} {c : Char} {cs : List Char} (word : Word k c cs text) :
    k ≠ .ending :=
  (lexeme_fits (word.read 0)).2

theorem Lexed.ne_ending (lexed : Lexed (ts.map Token.kind) text) :
    ∀ t ∈ ts, t.kind ≠ .ending := by
  generalize kinds : ts.map Token.kind = ks at lexed
  induction lexed generalizing ts with
  | nil _ => simp [List.map_eq_nil_iff.mp kinds]
  | cons _ word _ ih =>
    obtain ⟨t, others, rfl, rfl, same⟩ := List.map_eq_cons_iff.mp kinds
    exact List.forall_mem_cons.mpr ⟨word.ne_ending, ih same⟩

/-- What stands behind a word may be exchanged. -/
theorem Word.beside {k : TokenKind} {c : Char} {cs rest' : List Char} (word : Word k c cs rest)
    (beside : Beside rest rest') : Word k c cs rest' :=
  ⟨word.not_blank, fun position => lexeme_beside beside (word.read position)⟩

theorem Word.ne_point {c : Char} {cs : List Char} {k : TokenKind} (word : Word k c cs text) :
    c ≠ '.' := by
  rintro rfl
  have none : lexeme 0 '.' (cs ++ text) = .error (.unexpectedChar '.' 0) := by
    simp [lexeme, show startsName '.' = false by decide, Char.isDigit]
  cases none.symm.trans (word.read 0)

theorem ne_point_of_blank {c : Char} (blank : isBlank c = true) : c ≠ '.' := by
  rintro rfl
  cases blank

/-- Texts that start with the same character that is no point. -/
theorem beside_cons {c : Char} (no_point : c ≠ '.') (rest rest' : List Char) :
    Beside (c :: rest) (c :: rest') := by
  rintro _ _ ⟨⟩
  exact .inr (.inr ⟨rfl, no_point⟩)

theorem beside_blanks {blanks rest rest' : List Char} (allBlank : ∀ c ∈ blanks, isBlank c = true)
    (others : Beside rest rest') : Beside (blanks ++ rest) (blanks ++ rest') := by
  cases blanks with
  | nil => exact others
  | cons c blanks => exact beside_cons (ne_point_of_blank (allBlank c List.mem_cons_self)) _ _

/-! ## Tokens and what lies between them -/

/-- Behind blanks there is the end. -/
theorem next_ending {blanks : List Char} (allBlank : ∀ c ∈ blanks, isBlank c = true)
    (position : Nat) : Token.next position blanks =
      .ok (⟨.ending, position + byteLength blanks⟩, position + byteLength blanks, []) := by
  rw [Token.next, ← List.append_nil blanks, dropBlanks_append allBlank,
    List.takeWhile_append_of_pos allBlank, List.takeWhile_nil]
  rfl

/-- Behind blanks there is the word that stands there. -/
theorem next_token {blanks cs : List Char} {c : Char} {k : TokenKind}
    (allBlank : ∀ c ∈ blanks, isBlank c = true) (word : Word k c cs text) (position : Nat) :
    Token.next position (blanks ++ c :: (cs ++ text)) =
      .ok (⟨k, position + byteLength blanks⟩, position + byteLength (blanks ++ c :: cs), text) := by
  have left : dropBlanks (blanks ++ c :: (cs ++ text)) = c :: (cs ++ text) := by
    rw [dropBlanks_append allBlank, dropBlanks_of_head word.not_blank]
  have ends : ∀ d ∈ (c :: (cs ++ text)).head?, isBlank d = false := by
    rintro _ ⟨⟩
    exact word.not_blank
  have front := (span_append allBlank ends).1
  rw [Token.next_of_lexeme left (by rw [front]) (word.read _), List.take_succ_cons, List.take_left,
    List.drop_succ_cons, List.drop_left, byteLength_append, Nat.add_assoc]

/-- The next token is the end of the text, or the next word of it. -/
theorem next_eq_ok (taken : Token.next position text = .ok (t, after, rest)) :
    (t.kind = .ending ∧ ∀ c ∈ text, isBlank c = true) ∨
      ∃ blanks c word, (∀ c ∈ blanks, isBlank c = true) ∧ Word t.kind c word rest ∧
        text = blanks ++ c :: (word ++ rest) := by
  obtain ⟨blanks, allBlank, split⟩ := exists_dropBlanks text
  cases dropped : dropBlanks text with
  | nil =>
    rw [Token.next, dropped] at taken
    rw [dropped, List.append_nil] at split
    cases taken
    exact .inl ⟨rfl, split ▸ allBlank⟩
  | cons c tail =>
    rw [dropped] at split
    rw [Token.next_of_dropBlanks dropped] at taken
    obtain ⟨l, read, same⟩ := map_eq_ok_iff.mp taken
    cases same
    obtain ⟨n, length⟩ : ∃ n, l.length = n + 1 :=
      Nat.exists_eq_add_one_of_ne_zero (lexeme_length_pos read).ne'
    have fits := (lexeme_fits read).1
    have taken : (tail.take n).length = n := List.length_take_of_le (by omega)
    rw [length, List.drop_succ_cons]
    refine .inr ⟨blanks, c, tail.take n, allBlank, ⟨not_blank_of_dropBlanks dropped, ?_⟩, ?_⟩
    · intro position'
      rw [List.take_append_drop, taken, ← length]
      exact lexeme_position read position'
    · rw [List.take_append_drop]
      exact split

theorem lies_of_scanFrom (scanned : Token.scanFrom position text = .ok ts) :
    Lies position text ts := by
  induction position, text using Token.scanFrom.induct generalizing ts with
  | case1 position cs e fails =>
    cases (Token.scanFrom_of_error fails).symm.trans scanned
  | case2 position cs t after rest taken ending =>
    rw [Token.scanFrom_ending taken ending] at scanned
    cases scanned
    rcases next_eq_ok taken with ⟨-, allBlank⟩ | ⟨_, _, _, -, word, -⟩
    · cases (next_ending allBlank position).symm.trans taken
      exact .ending allBlank
    · exact absurd ending word.ne_ending
  | case3 position cs t after rest taken more ih =>
    rw [Token.scanFrom_of_next taken more] at scanned
    obtain ⟨others, scanned', rfl⟩ := map_eq_ok_iff.mp scanned
    rcases next_eq_ok taken with ⟨ending, -⟩ | ⟨blanks, c, cs, allBlank, word, rfl⟩
    · exact absurd ending more
    · obtain ⟨k, start⟩ := t
      cases (next_token allBlank word position).symm.trans taken
      exact .token allBlank word (ih scanned')

theorem scanFrom_of_lies (lies : Lies position text ts) :
    Token.scanFrom position text = .ok ts := by
  induction lies with
  | ending allBlank => exact Token.scanFrom_ending (next_ending allBlank _) rfl
  | token allBlank word _ ih =>
    exact Token.scanFrom_next (next_token allBlank word _) word.ne_ending ih

/-- The last token is the end, and no other one. -/
theorem Lies.ends (lies : Lies position text ts) :
    ∃ body, ts = body ++ [⟨.ending, position + byteLength text⟩] ∧
      ∀ t ∈ body, t.kind ≠ .ending := by
  induction lies with
  | ending => exact ⟨[], rfl, by simp⟩
  | @token position blanks cs text c k ts _ word _ ih =>
    obtain ⟨body, rfl, others⟩ := ih
    refine ⟨⟨k, position + byteLength blanks⟩ :: body, ?_,
      List.forall_mem_cons.mpr ⟨word.ne_ending, others⟩⟩
    have split : blanks ++ c :: (cs ++ text) = blanks ++ c :: cs ++ text := by
      simp only [List.append_assoc, List.cons_append]
    rw [split, byteLength_append (blanks ++ c :: cs), Nat.add_assoc, List.cons_append]

/-- Each token stands on a character boundary. -/
theorem Lies.exists_before (lies : Lies position text ts) {t : Token} (mem : t ∈ ts) :
    ∃ before after, text = before ++ after ∧ t.position = position + byteLength before := by
  induction lies with
  | @ending position blanks _ =>
    rw [List.mem_singleton.mp mem]
    exact ⟨blanks, [], (List.append_nil _).symm, rfl⟩
  | @token position blanks cs text c k ts _ _ _ ih =>
    rcases List.mem_cons.mp mem with rfl | mem
    · exact ⟨blanks, _, rfl, rfl⟩
    · obtain ⟨before, after, rfl, here⟩ := ih mem
      refine ⟨blanks ++ c :: cs ++ before, after, ?_, ?_⟩
      · simp only [List.append_assoc, List.cons_append]
      · rw [here, byteLength_append (blanks ++ c :: cs), Nat.add_assoc]

/-- Each token stands behind the one before it. -/
theorem Lies.pairwise (lies : Lies position text ts) :
    ts.Pairwise fun t u => t.position < u.position := by
  induction lies with
  | ending => exact List.pairwise_singleton _ _
  | @token position blanks cs text c k ts _ _ others ih =>
    refine List.pairwise_cons.mpr ⟨fun u mem => ?_, ih⟩
    obtain ⟨before, after, -, here⟩ := others.exists_before mem
    have size := c.utf8Size_pos
    rw [here, byteLength_append, byteLength]
    dsimp only
    omega

/-! ## Texts as words -/

/-- The words that lie in a text are what it is read as. -/
theorem Lies.lexed (lies : Lies position text ts) :
    ∃ body last, ts = body ++ [last] ∧ last.kind = .ending ∧
      Lexed (body.map Token.kind) text := by
  induction lies with
  | ending allBlank => exact ⟨[], _, rfl, rfl, .nil allBlank⟩
  | token allBlank word _ ih =>
    obtain ⟨body, last, rfl, ending, lexed⟩ := ih
    exact ⟨_ :: body, last, rfl, ending, .cons allBlank word lexed⟩

/-- What a text is read as lies in it, at any position. -/
theorem exists_lies {ks : List TokenKind} (lexed : Lexed ks text) (position : Nat) :
    ∃ body last, Lies position text (body ++ [last]) ∧ body.map Token.kind = ks ∧
      last.kind = .ending := by
  induction lexed generalizing position with
  | nil allBlank => exact ⟨[], _, .ending allBlank, rfl, rfl⟩
  | @cons blanks cs text c k ks allBlank word _ ih =>
    obtain ⟨body, last, lies, rfl, ending⟩ := ih (position + byteLength (blanks ++ c :: cs))
    exact ⟨⟨k, _⟩ :: body, last, .token allBlank word lies, rfl, ending⟩

/-- A text that is scanned is read as the words of its tokens, the last of which is its end. -/
theorem lexed_of_scanFrom (scanned : Token.scanFrom position text = .ok ts) :
    ∃ body last, ts = body ++ [last] ∧ last.kind = .ending ∧
      Lexed (body.map Token.kind) text :=
  (lies_of_scanFrom scanned).lexed

/-- A text that is read as words is scanned as them. -/
theorem scanFrom_of_lexed {ks : List TokenKind} (lexed : Lexed ks text) (position : Nat) :
    ∃ body last, Token.scanFrom position text = .ok (body ++ [last]) ∧
      body.map Token.kind = ks ∧ last.kind = .ending := by
  obtain ⟨body, last, lies, kinds, ending⟩ := exists_lies lexed position
  exact ⟨body, last, scanFrom_of_lies lies, kinds, ending⟩

/-- A text that is written in words which keep apart is read as them. -/
theorem lexed_of_written {ks : List TokenKind} (written : Written ks text) (apart : Apart ks) :
    Lexed ks text := by
  induction written with
  | nil allBlank => exact .nil allBlank
  | @cons blanks text k ks allBlank spellable written ih =>
    rcases List.isChain_cons.mp apart with ⟨first, others⟩
    have ends : k.Separates ∨ EndsName text := by
      by_cases separates : k.Separates
      · exact .inl separates
      · exact .inr (endsName_written written fun k' mem => (first k' mem).resolve_left separates)
    obtain ⟨c, cs, is, not_blank, -⟩ := lexeme_spelling spellable ends 0
    have word : Word k c cs text := by
      refine ⟨not_blank, fun position => ?_⟩
      obtain ⟨c', cs', is', -, read⟩ := lexeme_spelling spellable ends position
      obtain ⟨rfl, rfl⟩ := List.cons.inj (is.symm.trans is')
      rw [read, is, List.length_cons]
    rw [is, List.cons_append]
    exact .cons allBlank word (ih others)

end words

end RecordRules

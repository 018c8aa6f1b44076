import RecordRules.Proofs.Annotation.Grammar

/-!
# Writing annotations

An annotation is written from names and values.  There is more than one way to write it:
a character of a value may stand for itself or be written as an escape, and there
may be any number of spaces between entries.  Whatever way is chosen, the scanner and
`unquote` agree on where a value ends and on what it means, so a scan gives the names
and the values back (`annotationPairs_of_written`).
-/

namespace RecordRules

/-! ## Ways to write -/

/-- The digits of a number in a base, each in lower or upper case. -/
inductive Numeral (base : Nat) : List Char → Nat → Prop
  | nil : Numeral base [] 0
  | snoc {ds : List Char} {n v : Nat} {d : Char} : Numeral base ds n → v < base →
      (d = v.digitChar ∨ d = v.digitChar.toUpper) → Numeral base (ds ++ [d]) (n * base + v)

/-- Escapes of one letter or mark, and the characters that they stand for. -/
def letterEscapes : List (Char × Char) :=
  [('a', '\x07'), ('b', '\x08'), ('f', '\x0c'), ('n', '\n'), ('r', '\r'), ('t', '\t'),
    ('v', '\x0b'), ('\\', '\\'), ('\'', '\''), ('"', '"')]

/-- Escapes by hexadecimal digits, and how many digits they have. -/
def hexEscapes : List (Char × Nat) :=
  [('x', 2), ('u', 4), ('U', 8)]

/-- How a character of a value may be written between the quotes. -/
inductive Spells : List Char → Char → Prop
  | plain {c : Char} : c ≠ '\\' → c ≠ '"' → c ≠ '\n' → Spells [c] c
  | letter {l c : Char} : (l, c) ∈ letterEscapes → Spells ['\\', l] c
  | hex {l c : Char} {ds : List Char} : (l, ds.length) ∈ hexEscapes → Numeral 16 ds c.toNat →
      Spells ('\\' :: l :: ds) c
  | octal {c : Char} {ds : List Char} : ds.length = 3 → c.toNat ≤ 0xff → Numeral 8 ds c.toNat →
      Spells ('\\' :: ds) c

/-- How a value may be written between the quotes. -/
inductive SpellsAll : List Char → List Char → Prop
  | nil : SpellsAll [] []
  | cons {cs body value : List Char} {c : Char} : Spells cs c → SpellsAll body value →
      SpellsAll (cs ++ body) (c :: value)

/-- A text that can be the name of an entry. -/
def IsEntryName (name : String) : Prop :=
  name.toList ≠ [] ∧ (utf8 name.toList).all isNameByte = true

instance (name : String) : Decidable (IsEntryName name) :=
  inferInstanceAs (Decidable (_ ∧ _))

/-- How an entry of a name and a value may be written. -/
def WritesEntry (entry : String × String) (cs : List Char) : Prop :=
  ∃ body, SpellsAll body entry.2.toList ∧ cs = entry.1.toList ++ ':' :: '"' :: (body ++ ['"'])

/-- How entries may be written behind others: one or more spaces before each. -/
inductive WritesMore : List (String × String) → List Char → Prop
  | nil : WritesMore [] []
  | cons {entry : String × String} {entries : List (String × String)} {cs text : List Char}
      (gap : Nat) : WritesEntry entry cs → WritesMore entries text →
      WritesMore (entry :: entries) (List.replicate (gap + 1) ' ' ++ (cs ++ text))

/-- How an annotation of these names and values may be written. -/
inductive Writes : List (String × String) → List Char → Prop
  | nil : Writes [] []
  | cons {entry : String × String} {entries : List (String × String)} {cs text : List Char} :
      WritesEntry entry cs → WritesMore entries text → Writes (entry :: entries) (cs ++ text)

/-! ## Numerals -/

/-- Digits are read as the number that they are digits of, whatever digits come after them. -/
theorem readCode_of_numeral {digit? : Char → Option Nat} {base : Nat}
    (digits : ∀ v < base, digit? v.digitChar = some v ∧ digit? v.digitChar.toUpper = some v)
    {ds : List Char} {n : Nat} (numeral : Numeral base ds n) (count : Nat) (rest : List Char) :
    readCode digit? base (ds.length + count) 0 (ds ++ rest) =
      readCode digit? base count n rest := by
  induction numeral generalizing count rest with
  | nil => rw [List.length_nil, Nat.zero_add, List.nil_append]
  | @snoc ds n v d _ low digit ih =>
    have read : digit? d = some v := by
      rcases digit with rfl | rfl
      · exact (digits v low).1
      · exact (digits v low).2
    have more : (ds ++ [d]).length + count = ds.length + (count + 1) := by
      rw [List.length_append, List.length_singleton]
      omega
    rw [more, List.append_assoc, ih, List.singleton_append, readCode, read]

theorem readCode_numeral {digit? : Char → Option Nat} {base : Nat}
    (digits : ∀ v < base, digit? v.digitChar = some v ∧ digit? v.digitChar.toUpper = some v)
    {ds : List Char} {n : Nat} (numeral : Numeral base ds n) (rest : List Char) :
    readCode digit? base ds.length 0 (ds ++ rest) = some (n, rest) :=
  readCode_of_numeral digits numeral 0 rest

theorem hexDigit?_digitChar : ∀ v < 16,
    hexDigit? v.digitChar = some v ∧ hexDigit? v.digitChar.toUpper = some v := by
  decide

theorem octalDigit?_digitChar : ∀ v < 8,
    octalDigit? v.digitChar = some v ∧ octalDigit? v.digitChar.toUpper = some v := by
  decide

theorem digit_of_numeral {base : Nat} {ds : List Char} {n : Nat} (numeral : Numeral base ds n) :
    ∀ d ∈ ds, ∃ v < base, d = v.digitChar ∨ d = v.digitChar.toUpper := by
  induction numeral with
  | nil => simp
  | @snoc ds n v d _ low digit ih =>
    intro c mem
    rcases List.mem_append.mp mem with mem | mem
    · exact ih c mem
    · obtain rfl := List.mem_singleton.mp mem
      exact ⟨v, low, digit⟩

/-- No digit is a quote or a backslash. -/
theorem plain_of_numeral {base : Nat} (small : base ≤ 16) {ds : List Char} {n : Nat}
    (numeral : Numeral base ds n) : ∀ d ∈ ds, d ≠ '"' ∧ d ≠ '\\' := by
  have plain : ∀ v < 16, (v.digitChar ≠ '"' ∧ v.digitChar ≠ '\\') ∧
      v.digitChar.toUpper ≠ '"' ∧ v.digitChar.toUpper ≠ '\\' := by
    decide
  intro d mem
  obtain ⟨v, low, rfl | rfl⟩ := digit_of_numeral numeral d mem
  · exact (plain v (by omega)).1
  · exact (plain v (by omega)).2

theorem charOfCode?_toNat (c : Char) : charOfCode? c.toNat = some c := by
  have valid : c.toNat.isValidChar := c.valid
  rw [charOfCode?, if_pos valid, Char.ofNat_toNat]

/-! ## Escapes -/

theorem unescape_letter {l c : Char} (mem : (l, c) ∈ letterEscapes) (rest : List Char) :
    unescape (l :: rest) = some (c, rest) := by
  simp only [letterEscapes, List.mem_cons, Prod.mk.injEq, List.not_mem_nil, or_false] at mem
  rcases mem with ⟨rfl, rfl⟩ | ⟨rfl, rfl⟩ | ⟨rfl, rfl⟩ | ⟨rfl, rfl⟩ | ⟨rfl, rfl⟩ | ⟨rfl, rfl⟩ |
    ⟨rfl, rfl⟩ | ⟨rfl, rfl⟩ | ⟨rfl, rfl⟩ | ⟨rfl, rfl⟩
  all_goals rfl

theorem hexEscape_numeral {c : Char} {ds : List Char} (numeral : Numeral 16 ds c.toNat)
    (rest : List Char) : hexEscape ds.length (ds ++ rest) = some (c, rest) := by
  rw [hexEscape, readCode_numeral hexDigit?_digitChar numeral, Option.bind_some]
  dsimp only
  rw [charOfCode?_toNat, Option.map_some]

theorem unescape_hex {l c : Char} {ds : List Char} (mem : (l, ds.length) ∈ hexEscapes)
    (numeral : Numeral 16 ds c.toNat) (rest : List Char) :
    unescape (l :: (ds ++ rest)) = some (c, rest) := by
  have read := hexEscape_numeral numeral rest
  simp only [hexEscapes, List.mem_cons, Prod.mk.injEq, List.not_mem_nil, or_false] at mem
  rcases mem with ⟨rfl, length⟩ | ⟨rfl, length⟩ | ⟨rfl, length⟩
  all_goals
    rw [length] at read
    exact read

/-- No letter of an escape is an octal digit. -/
theorem unescape_octalDigit {v : Nat} (low : v < 8) (cs : List Char) :
    unescape (v.digitChar :: cs) = octalEscape (v.digitChar :: cs) ∧
      v.digitChar.toUpper = v.digitChar := by
  match v, low with
  | 0, _ | 1, _ | 2, _ | 3, _ | 4, _ | 5, _ | 6, _ | 7, _ => exact ⟨rfl, rfl⟩

theorem unescape_octal {c : Char} {ds : List Char} (three : ds.length = 3) (low : c.toNat ≤ 0xff)
    (numeral : Numeral 8 ds c.toNat) (rest : List Char) :
    unescape (ds ++ rest) = some (c, rest) := by
  have read : octalEscape (ds ++ rest) = some (c, rest) := by
    have code := readCode_numeral octalDigit?_digitChar numeral rest
    rw [three] at code
    rw [octalEscape, code, Option.bind_some]
    dsimp only
    rw [if_pos low, charOfCode?_toNat, Option.map_some]
  rw [← read]
  cases ds with
  | nil => cases three
  | cons d ds =>
    rw [List.cons_append]
    obtain ⟨v, small, rfl | rfl⟩ := digit_of_numeral numeral d List.mem_cons_self
    · exact (unescape_octalDigit small _).1
    · rw [(unescape_octalDigit small []).2]
      exact (unescape_octalDigit small _).1

/-- A way to write a character is the character itself, or a backslash and an escape. -/
theorem unescape_of_spells {cs : List Char} {c : Char} (spells : Spells cs c) :
    (cs = [c] ∧ c ≠ '\\' ∧ c ≠ '"' ∧ c ≠ '\n') ∨
      ∃ escape, cs = '\\' :: escape ∧ ∀ rest, unescape (escape ++ rest) = some (c, rest) := by
  cases spells with
  | plain backslash quote newline => exact .inl ⟨rfl, backslash, quote, newline⟩
  | letter mem => exact .inr ⟨_, rfl, unescape_letter mem⟩
  | hex mem numeral => exact .inr ⟨_, rfl, unescape_hex mem numeral⟩
  | octal three low numeral => exact .inr ⟨_, rfl, unescape_octal three low numeral⟩

/-! ## Values -/

/-- Escapes are resolved to the characters that they stand for. -/
theorem decodeBody_of_spellsAll {body value : List Char} (spells : SpellsAll body value) :
    decodeBody body = some value := by
  induction spells with
  | nil => rw [decodeBody]
  | @cons cs body value c spells _ ih =>
    rcases unescape_of_spells spells with
      ⟨rfl, backslash, quote, newline⟩ | ⟨escape, rfl, unescaped⟩
    · rw [List.singleton_append, decodeBody, if_neg (by simp [quote, newline]), if_neg backslash,
        ih, Option.map_some]
    · rw [List.cons_append, decodeBody, if_neg (by decide), if_pos rfl]
      split
      · next found =>
        cases (unescaped body).symm.trans found
        rw [ih, Option.map_some]
      · next missing => cases (unescaped body).symm.trans missing

/-- A text without escapes stands for itself, so looking for them first makes no difference. -/
theorem decodeBody_of_plain {body : List Char} (plain : body.any needsEscape = false) :
    decodeBody body = some body := by
  induction body with
  | nil => rw [decodeBody]
  | cons c body ih =>
    rw [List.any_cons, Bool.or_eq_false_iff] at plain
    obtain ⟨here, others⟩ := plain
    simp only [needsEscape, Bool.or_eq_false_iff, decide_eq_false_iff_not] at here
    obtain ⟨⟨backslash, quote⟩, newline⟩ := here
    rw [decodeBody, if_neg (by simp [quote, newline]), if_neg backslash, ih others, Option.map_some]

theorem stripQuotes_quoted (body : List Char) :
    stripQuotes ('"' :: (body ++ ['"'])) = some body := by
  simp [stripQuotes]

/-- A quoted value that is written in any way is unquoted to the value. -/
theorem unquote_of_spellsAll {body value : List Char} (spells : SpellsAll body value) :
    unquote (String.ofList ('"' :: (body ++ ['"']))) = .ok (String.ofList value) := by
  have decoded := decodeBody_of_spellsAll spells
  rw [unquote, String.toList_ofList, stripQuotes_quoted]
  dsimp only
  split
  · next plain =>
    rw [decodeBody_of_plain (by simpa using plain)] at decoded
    cases decoded
    rfl
  · rw [decoded]

theorem hides_append {cs : List Char} (plain : ∀ c ∈ cs, c ≠ '"' ∧ c ≠ '\\') {body : List Char}
    (hides : Hides body) : Hides (cs ++ body) := by
  induction cs with
  | nil => exact hides
  | cons c cs ih =>
    rcases List.forall_mem_cons.mp plain with ⟨⟨quote, backslash⟩, others⟩
    exact .plain quote backslash (ih others)

/-- A value that is written in any way does not end before its closing quote. -/
theorem hides_of_spellsAll {body value : List Char} (spells : SpellsAll body value) :
    Hides body := by
  induction spells with
  | nil => exact .nil
  | @cons cs body value c spells _ ih =>
    cases spells with
    | plain backslash quote _ => exact .plain quote backslash ih
    | letter _ => exact .escape ih
    | hex _ numeral => exact .escape (hides_append (plain_of_numeral (by decide) numeral) ih)
    | @octal _ ds three _ numeral =>
      cases ds with
      | nil => cases three
      | cons d ds =>
        have plain := plain_of_numeral (by decide) numeral
        exact .escape (hides_append (List.forall_mem_cons.mp plain).2 ih)

/-- Every value can be written. -/
theorem exists_spellsAll (value : List Char) : ∃ body, SpellsAll body value := by
  induction value with
  | nil => exact ⟨[], .nil⟩
  | cons c value ih =>
    obtain ⟨body, others⟩ := ih
    by_cases backslash : c = '\\'
    · subst backslash
      exact ⟨_, .cons (.letter (l := '\\') (by decide)) others⟩
    by_cases quote : c = '"'
    · subst quote
      exact ⟨_, .cons (.letter (l := '"') (by decide)) others⟩
    by_cases newline : c = '\n'
    · subst newline
      exact ⟨_, .cons (.letter (l := 'n') (by decide)) others⟩
    · exact ⟨_, .cons (.plain backslash quote newline) others⟩

/-! ## Entries -/

/-- What is written for a name and a value is an entry, with any number of spaces before it. -/
theorem entry_of_writesEntry {entry : String × String} {cs : List Char} (name : IsEntryName entry.1)
    (writes : WritesEntry entry cs) (spaces : Nat) :
    ∃ e : Entry, e.chars = List.replicate spaces ' ' ++ cs ∧
      (e.pair.name, e.pair.value) = entry := by
  obtain ⟨body, spells, rfl⟩ := writes
  have stands := unquote_of_spellsAll spells
  rw [String.ofList_toList] at stands
  refine ⟨⟨spaces, entry.1.toList, body, entry.2, name.1, List.all_eq_true.mp name.2,
    hides_of_spellsAll spells, stands⟩, rfl, ?_⟩
  rw [Entry.pair, String.ofList_toList]

theorem entries_of_writesMore {entries : List (String × String)} {text : List Char}
    (names : ∀ entry ∈ entries, IsEntryName entry.1) (writes : WritesMore entries text) :
    ∃ es : List Entry, es.flatMap Entry.chars = text ∧
      es.map (fun e => (e.pair.name, e.pair.value)) = entries := by
  induction writes with
  | nil => exact ⟨[], rfl, rfl⟩
  | cons gap writes _ ih =>
    rcases List.forall_mem_cons.mp names with ⟨name, names⟩
    obtain ⟨e, chars, pair⟩ := entry_of_writesEntry name writes (gap + 1)
    obtain ⟨es, text, pairs⟩ := ih names
    refine ⟨e :: es, ?_, ?_⟩
    · rw [List.flatMap_cons, chars, text, List.append_assoc]
    · rw [List.map_cons, pair, pairs]

theorem entries_of_writes {entries : List (String × String)} {text : List Char}
    (names : ∀ entry ∈ entries, IsEntryName entry.1) (writes : Writes entries text) :
    ∃ es : List Entry, es.flatMap Entry.chars = text ∧
      es.map (fun e => (e.pair.name, e.pair.value)) = entries := by
  cases writes with
  | nil => exact ⟨[], rfl, rfl⟩
  | cons writes more =>
    rcases List.forall_mem_cons.mp names with ⟨name, names⟩
    obtain ⟨e, chars, pair⟩ := entry_of_writesEntry name writes 0
    obtain ⟨es, text, pairs⟩ := entries_of_writesMore names more
    refine ⟨e :: es, ?_, ?_⟩
    · rw [List.flatMap_cons, chars, text, List.replicate_zero, List.nil_append]
    · rw [List.map_cons, pair, pairs]

/-- Every list of names and values can be written. -/
theorem exists_writes (entries : List (String × String)) : ∃ text, Writes entries text := by
  have entry_written (entry : String × String) : ∃ cs, WritesEntry entry cs := by
    obtain ⟨body, spells⟩ := exists_spellsAll entry.2.toList
    exact ⟨_, body, spells, rfl⟩
  have more (entries : List (String × String)) : ∃ text, WritesMore entries text := by
    induction entries with
    | nil => exact ⟨[], .nil⟩
    | cons entry entries ih =>
      obtain ⟨cs, writes⟩ := entry_written entry
      obtain ⟨text, others⟩ := ih
      exact ⟨_, .cons 0 writes others⟩
  cases entries with
  | nil => exact ⟨[], .nil⟩
  | cons entry entries =>
    obtain ⟨cs, writes⟩ := entry_written entry
    obtain ⟨text, others⟩ := more entries
    exact ⟨_, .cons writes others⟩

/-! ## Reading what is written -/

/-- The first pair of a name is the first entry of that name. -/
theorem find?_eq_lookup (pairs : List Pair) (key : String) :
    (pairs.find? fun pair => pair.name = key).map Pair.value =
      (pairs.map fun pair => (pair.name, pair.value)).lookup key := by
  induction pairs with
  | nil => rfl
  | cons pair pairs ih =>
    rw [List.find?_cons, List.map_cons, List.lookup_cons]
    by_cases named : pair.name = key
    · simp [named]
    · have other : (key == pair.name) = false := by
        simpa using fun same => named same.symm
      simp [named, other, ih]

/-- Names and values can be written as an annotation, and in whatever way they are written, a scan
gives them back in order and takes the whole text, and a lookup finds the first value of a name. -/
theorem annotationPairs_of_written {entries : List (String × String)}
    (names : ∀ entry ∈ entries, IsEntryName entry.1) :
    (∃ text, Writes entries text) ∧ ∀ text, Writes entries text →
      (annotationPairs (String.ofList text)).map (fun pair => (pair.name, pair.value)) = entries ∧
      (PairScanner.start (String.ofList text)).collect.2.consumed = byteLength text ∧
      ∀ info : FieldInfo, info.tag = String.ofList text → ∀ key,
        info.lookup key = entries.lookup key := by
  refine ⟨exists_writes entries, fun text writes => ?_⟩
  obtain ⟨es, rfl, rfl⟩ := entries_of_writes names writes
  have divides : DividesInto (es.flatMap Entry.chars) es [] :=
    ⟨(List.append_nil _).symm, not_beginsWithEntry_nil⟩
  have start : PairScanner.start (String.ofList (es.flatMap Entry.chars)) =
      ⟨es.flatMap Entry.chars, 0, false⟩ := by
    rw [PairScanner.start, String.toList_ofList]
  have collected := collect_of_dividesInto divides 0
  rw [← start] at collected
  have pairs : (annotationPairs (String.ofList (es.flatMap Entry.chars))).map
      (fun pair => (pair.name, pair.value)) = es.map fun e => (e.pair.name, e.pair.value) := by
    rw [annotationPairs, collected, List.map_map]
    rfl
  refine ⟨pairs, ?_, fun info tag key => ?_⟩
  · rw [collected, Nat.zero_add]
  · rw [FieldInfo.lookup, tag, find?_eq_lookup, pairs]

/-- An escape by digits, an escaped quote and two spaces. -/
theorem annotationPairs_of_written_escapes :
    (annotationPairs "json:\"\\x61\\\"b\"  n:\"\\\\\"").map
      (fun pair => (pair.name, pair.value)) = [("json", "a\"b"), ("n", "\\")] := by
  have six : Numeral 16 ['6'] 6 := .snoc (n := 0) (v := 6) (d := '6') .nil (by decide) (.inl rfl)
  have code : Numeral 16 ['6', '1'] 0x61 :=
    .snoc (n := 6) (v := 1) (d := '1') six (by decide) (.inl rfl)
  have hex : Spells ['\\', 'x', '6', '1'] 'a' := .hex (by decide) code
  have quote : Spells ['\\', '"'] '"' := .letter (by decide)
  have plain : Spells ['b'] 'b' := .plain (by decide) (by decide) (by decide)
  have first : WritesEntry ("json", "a\"b") "json:\"\\x61\\\"b\"".toList :=
    ⟨_, .cons hex (.cons quote (.cons plain .nil)), rfl⟩
  have backslash : Spells ['\\', '\\'] '\\' := .letter (by decide)
  have second : WritesEntry ("n", "\\") "n:\"\\\\\"".toList := ⟨_, .cons backslash .nil, rfl⟩
  have written : Writes [("json", "a\"b"), ("n", "\\")]
      "json:\"\\x61\\\"b\"  n:\"\\\\\"".toList :=
    .cons first (.cons 1 second .nil)
  have read := ((annotationPairs_of_written (by decide)).2 _ written).1
  rwa [String.ofList_toList] at read

end RecordRules

import RecordRules.Proofs.Annotation
import RecordRules.Proofs.Text.Pieces
import RecordRules.Proofs.Text.Utf8

/-!
# The grammar of annotations

An entry is any number of spaces, a name, a colon, and a quoted text that stands for a
value.  The scanner reads one if and only if the text begins with one
(`read?_eq_some_iff`), and a text begins with at most one.  So a text has exactly one division into
entries and a rest that does not begin with an entry, and that is the one that the scanner
finds.
-/

namespace RecordRules

/-! ## Entries -/

/-- What stands between the quotes of an entry: a backslash hides the character after it. -/
inductive Hides : List Char → Prop
  | nil : Hides []
  | plain {c : Char} {cs : List Char} : c ≠ '"' → c ≠ '\\' → Hides cs → Hides (c :: cs)
  | escape {c : Char} {cs : List Char} : Hides cs → Hides ('\\' :: c :: cs)

/-- A byte that may stand in the name of an entry. -/
def isNameByte (b : UInt8) : Bool :=
  0x20 < b && b != 0x3a && b != 0x22 && b != 0x7f

/-- An entry of an annotation, as it is written. -/
structure Entry where
  /-- How many spaces stand before it. -/
  spaces : Nat
  name : List Char
  /-- What stands between the quotes. -/
  body : List Char
  value : String
  name_ne_nil : name ≠ []
  name_bytes : ∀ b ∈ utf8 name, isNameByte b = true
  hides : Hides body
  stands : unquote (String.ofList ('"' :: (body ++ ['"']))) = .ok value

namespace Entry

/-- The text of an entry. -/
def chars (e : Entry) : List Char :=
  List.replicate e.spaces ' ' ++ (e.name ++ ':' :: '"' :: (e.body ++ ['"']))

/-- What is read from an entry. -/
def pair (e : Entry) : Pair :=
  ⟨String.ofList e.name, String.ofList ('"' :: (e.body ++ ['"'])), e.value⟩

end Entry

/-- The text begins with an entry. -/
def BeginsWithEntry (cs : List Char) : Prop :=
  ∃ (e : Entry) (rest : List Char), cs = e.chars ++ rest

/-- The text is these entries and a rest that does not begin with one. -/
def DividesInto (cs : List Char) (entries : List Entry) (rest : List Char) : Prop :=
  cs = entries.flatMap Entry.chars ++ rest ∧ ¬ BeginsWithEntry rest

/-! ## Names -/

theorem isNameByte_of_ascii {c : Char} (low : c.toNat < 0x80) :
    isNameByte (UInt8.ofNat c.toNat) = isEntryNameChar c := by
  have table : ∀ code < 0x80,
      isNameByte (UInt8.ofNat code) = isEntryNameChar (Char.ofNat code) := by
    decide +kernel
  have here := table c.toNat low
  rwa [Char.ofNat_toNat] at here

theorem isEntryNameChar_of_high {c : Char} (high : 0x80 ≤ c.toNat) : isEntryNameChar c = true := by
  have above : ' ' < c := by
    rw [Char.lt_def, UInt32.lt_iff_toNat_lt]
    change 0x20 < c.toNat
    omega
  have other {c' : Char} (low : c'.toNat < 0x80) : c ≠ c' := by
    rintro rfl
    omega
  simp only [isEntryNameChar, above, other (show (':' : Char).toNat < 0x80 by decide),
    other (show ('"' : Char).toNat < 0x80 by decide),
    other (show ('\x7f' : Char).toNat < 0x80 by decide), ne_eq, not_false_eq_true, decide_true,
    Bool.and_true]

theorem isNameByte_of_high {b : UInt8} (high : 0x80 ≤ b.toNat) : isNameByte b = true := by
  simp only [isNameByte, Bool.and_eq_true, decide_eq_true_eq, bne_iff_ne, ne_eq,
    UInt8.lt_iff_toNat_lt, ← UInt8.toNat_inj, UInt8.reduceToNat]
  omega

/-- A character may stand in a name if and only if all its bytes may. -/
theorem isEntryNameChar_iff_bytes (c : Char) :
    isEntryNameChar c = true ↔ ∀ b ∈ String.utf8EncodeChar c, isNameByte b = true := by
  rcases Nat.lt_or_ge c.toNat 0x80 with low | high
  · rw [ascii_byte low, List.forall_mem_singleton, isNameByte_of_ascii low]
  · have bytes : ∀ b ∈ String.utf8EncodeChar c, isNameByte b = true :=
      fun b mem => isNameByte_of_high (high_bytes high b mem)
    exact ⟨fun _ => bytes, fun _ => isEntryNameChar_of_high high⟩

theorem nameChars_iff_bytes (name : List Char) :
    (∀ c ∈ name, isEntryNameChar c = true) ↔ ∀ b ∈ utf8 name, isNameByte b = true := by
  simp only [utf8, List.mem_flatMap, isEntryNameChar_iff_bytes]
  constructor
  · rintro all b ⟨c, mem, byte⟩
    exact all c mem b byte
  · intro all c mem b byte
    exact all b ⟨c, mem, byte⟩

/-! ## Quoted texts -/

theorem closingQuote_plain {c : Char} (other : c ≠ '"') (plain : c ≠ '\\') (cs : List Char) :
    closingQuote (c :: cs) = (closingQuote cs).map (· + 1) := by
  rw [closingQuote]
  · exact other
  · rintro rfl
    exact absurd rfl plain
  · rintro _ _ rfl
    exact absurd rfl plain

/-- A quoted text ends at the first quote that is not hidden. -/
theorem closingQuote_of_hides {body : List Char} (hides : Hides body) (rest : List Char) :
    closingQuote (body ++ '"' :: rest) = some (body.length + 1) := by
  induction hides with
  | nil => rfl
  | plain other plain _ ih =>
    rw [List.cons_append, closingQuote_plain other plain, ih]
    rfl
  | escape _ ih =>
    rw [List.cons_append, List.cons_append, closingQuote, ih]
    rfl

theorem take_quoted (body rest : List Char) :
    (body ++ '"' :: rest).take (body.length + 1) = body ++ ['"'] := by
  rw [List.append_cons, List.take_left' (by simp)]

theorem hides_of_closingQuote {cs : List Char} {n : Nat} (closes : closingQuote cs = some n) :
    ∃ body rest, Hides body ∧ cs = body ++ '"' :: rest ∧ n = body.length + 1 := by
  induction cs using closingQuote.induct generalizing n with
  | case1 => cases closes
  | case2 rest =>
    cases closes
    exact ⟨[], rest, .nil, rfl, rfl⟩
  | case3 => cases closes
  | case4 c cs ih =>
    rw [closingQuote] at closes
    obtain ⟨k, inner, rfl⟩ := Option.map_eq_some_iff.mp closes
    obtain ⟨body, rest, hides, rfl, rfl⟩ := ih inner
    exact ⟨'\\' :: c :: body, rest, .escape hides, rfl, rfl⟩
  | case5 c cs other alone hides' ih =>
    have plain : c ≠ '\\' := by
      rintro rfl
      cases cs with
      | nil => exact alone rfl rfl
      | cons d cs => exact hides' d cs rfl rfl
    rw [closingQuote_plain other plain] at closes
    obtain ⟨k, inner, rfl⟩ := Option.map_eq_some_iff.mp closes
    obtain ⟨body, rest, hides, rfl, rfl⟩ := ih inner
    exact ⟨c :: body, rest, .plain other plain hides, rfl, rfl⟩

/-! ## Reading an entry -/

/-- The text opens an entry: spaces, a name, a colon and a quote. -/
structure Opens (cs spaces name body : List Char) : Prop where
  text : cs = spaces ++ (name ++ ':' :: '"' :: body)
  blank : ∀ c ∈ spaces, c = ' '
  name_ne_nil : name ≠ []
  name_chars : ∀ c ∈ name, isEntryNameChar c = true

/-- The entry of a name and a quoted text, if the quoted text stands for a value. -/
def quotedPair? (name quoted : List Char) : Option Pair :=
  match unquote (String.ofList quoted) with
  | .ok value => some ⟨String.ofList name, String.ofList quoted, value⟩
  | .error _ => none

namespace Opens

variable {cs spaces name body : List Char}

theorem named (opens : Opens cs spaces name body) :
    name.isEmpty = false ∧ (name ++ ':' :: '"' :: body).takeWhile isEntryNameChar = name ∧
      (name ++ ':' :: '"' :: body).dropWhile isEntryNameChar = ':' :: '"' :: body :=
  ⟨by simpa using opens.name_ne_nil, span_append opens.name_chars (by rintro _ ⟨⟩; decide)⟩

/-- A name does not start with a space. -/
theorem spaced (opens : Opens cs spaces name body) : cs.takeWhile (· = ' ') = spaces ∧
    cs.dropWhile (· = ' ') = name ++ ':' :: '"' :: body := by
  obtain ⟨rfl, blank, name_ne_nil, name_chars⟩ := opens
  cases name with
  | nil => exact absurd rfl name_ne_nil
  | cons c name =>
    have not_space : decide (c = ' ') = false := by
      refine decide_eq_false ?_
      rintro rfl
      exact absurd (name_chars ' ' List.mem_cons_self) (by decide)
    have spaces : ∀ c ∈ spaces, decide (c = ' ') = true := fun c mem => decide_eq_true (blank c mem)
    refine span_append spaces ?_
    rintro _ ⟨⟩
    exact not_space

/-- What is read where an entry opens depends on where its quoted text ends. -/
theorem read?_eq (opens : Opens cs spaces name body) :
    Pair.read? cs = (closingQuote body).bind fun n =>
      (quotedPair? name ('"' :: body.take n)).map (·, spaces.length + name.length + 2 + n) := by
  obtain ⟨some_name, takeName, dropName⟩ := opens.named
  rw [Pair.read?, opens.spaced.1, opens.spaced.2, takeName, dropName]
  dsimp only
  rw [some_name, if_neg (by simp)]
  refine congrArg (Option.bind (closingQuote body)) (funext fun n => ?_)
  rw [quotedPair?]
  cases unquote (String.ofList ('"' :: body.take n)) with
  | error _ => rfl
  | ok _ => rfl

end Opens

/-- Nothing is read where no entry opens. -/
theorem opens_of_read? {cs : List Char} {found : Pair × Nat} (read : Pair.read? cs = some found) :
    ∃ spaces name body, Opens cs spaces name body := by
  have splitSpaces : cs.takeWhile (· = ' ') ++ cs.dropWhile (· = ' ') = cs :=
    List.takeWhile_append_dropWhile
  have splitName := List.takeWhile_append_dropWhile (p := isEntryNameChar)
    (l := cs.dropWhile (· = ' '))
  rw [Pair.read?] at read
  dsimp only at read
  split at read
  · cases read
  · next some_name =>
    split at read
    · next body after =>
      rw [after] at splitName
      rw [← splitName] at splitSpaces
      exact ⟨_, _, body, splitSpaces.symm,
        fun c mem => of_decide_eq_true (List.all_eq_true.mp List.all_takeWhile c mem),
        by simpa using some_name, fun c mem => List.all_eq_true.mp List.all_takeWhile c mem⟩
    · cases read

namespace Entry

theorem opens (e : Entry) (rest : List Char) :
    Opens (e.chars ++ rest) (List.replicate e.spaces ' ') e.name (e.body ++ '"' :: rest) where
  text := by simp [chars]
  blank c mem := List.eq_of_mem_replicate mem
  name_ne_nil := e.name_ne_nil
  name_chars := (nameChars_iff_bytes e.name).mpr e.name_bytes

theorem quotedPair?_eq (e : Entry) :
    quotedPair? e.name ('"' :: (e.body ++ ['"'])) = some e.pair := by
  rw [quotedPair?, e.stands]
  rfl

/-- The entry at the front of a text is read. -/
theorem read?_append (e : Entry) (rest : List Char) :
    Pair.read? (e.chars ++ rest) = some (e.pair, e.chars.length) := by
  rw [(e.opens rest).read?_eq, closingQuote_of_hides e.hides, Option.bind_some, take_quoted,
    e.quotedPair?_eq, Option.map_some]
  simp [chars]
  omega

end Entry

/-- Whatever is read is an entry at the front of the text. -/
theorem entry_of_read? {cs : List Char} {pair : Pair} {n : Nat}
    (read : Pair.read? cs = some (pair, n)) :
    ∃ (e : Entry) (rest : List Char),
      cs = e.chars ++ rest ∧ e.pair = pair ∧ e.chars.length = n := by
  obtain ⟨spaces, name, body, opens⟩ := opens_of_read? read
  rw [opens.read?_eq] at read
  obtain ⟨k, closes, read⟩ := Option.bind_eq_some_iff.mp read
  obtain ⟨inner, rest, hides, rfl, rfl⟩ := hides_of_closingQuote closes
  obtain ⟨found, quoted, same⟩ := Option.map_eq_some_iff.mp read
  cases same
  rw [take_quoted, quotedPair?] at quoted
  cases stands : unquote (String.ofList ('"' :: (inner ++ ['"']))) with
  | error e =>
    rw [stands] at quoted
    cases quoted
  | ok value =>
    rw [stands] at quoted
    cases quoted
    have spaces_eq := List.eq_replicate_of_mem opens.blank
    refine ⟨⟨spaces.length, name, inner, value, opens.name_ne_nil,
      (nameChars_iff_bytes name).mp opens.name_chars, hides, stands⟩, rest, opens.text.trans ?_,
      rfl, ?_⟩
    · dsimp only [Entry.chars]
      rw [← spaces_eq]
      simp
    · simp [Entry.chars]
      omega

/-- The scanner reads an entry if and only if the text begins with it. -/
theorem read?_eq_some_iff {cs : List Char} {pair : Pair} {n : Nat} :
    Pair.read? cs = some (pair, n) ↔
      ∃ (e : Entry) (rest : List Char),
        cs = e.chars ++ rest ∧ e.pair = pair ∧ e.chars.length = n := by
  constructor
  · exact entry_of_read?
  · rintro ⟨e, rest, rfl, rfl, rfl⟩
    exact e.read?_append rest

theorem read?_eq_none_iff {cs : List Char} : Pair.read? cs = none ↔ ¬ BeginsWithEntry cs := by
  constructor
  · rintro none ⟨e, rest, rfl⟩
    rw [e.read?_append rest] at none
    cases none
  · intro not_begins
    cases read : Pair.read? cs with
    | none => rfl
    | some found =>
      obtain ⟨e, rest, text, -, -⟩ := entry_of_read? read
      exact absurd ⟨e, rest, text⟩ not_begins

theorem not_beginsWithEntry_nil : ¬ BeginsWithEntry [] := by
  rintro ⟨e, rest, text⟩
  have length := congrArg List.length text
  simp [Entry.chars] at length

/-! ## A text is divided in one way -/

/-- An entry is determined by what is read from it and by its length. -/
theorem entry_eq {e e' : Entry} (pair : e.pair = e'.pair)
    (length : e.chars.length = e'.chars.length) : e = e' := by
  obtain ⟨spaces, name, body, value, _, _, _, _⟩ := e
  obtain ⟨spaces', name', body', value', _, _, _, _⟩ := e'
  simp only [Entry.pair, Pair.mk.injEq, String.ofList_inj, List.cons.injEq, true_and,
    List.append_cancel_right_eq] at pair
  obtain ⟨rfl, rfl, rfl⟩ := pair
  simp only [Entry.chars, List.length_append, List.length_replicate] at length
  obtain rfl : spaces = spaces' := by omega
  rfl

theorem first_entry_unique {e e' : Entry} {rest rest' : List Char}
    (same : e.chars ++ rest = e'.chars ++ rest') : e = e' ∧ rest = rest' := by
  have read := e.read?_append rest
  rw [same, e'.read?_append rest'] at read
  obtain ⟨pair, length⟩ := Prod.mk.inj (Option.some.inj read)
  obtain rfl := entry_eq pair.symm length.symm
  exact ⟨rfl, List.append_cancel_left same⟩

theorem dividesInto_unique {cs : List Char} {entries entries' : List Entry} {rest rest' : List Char}
    (divides : DividesInto cs entries rest) (divides' : DividesInto cs entries' rest') :
    entries = entries' ∧ rest = rest' := by
  obtain ⟨text, ends⟩ := divides
  obtain ⟨text', ends'⟩ := divides'
  have same := text.symm.trans text'
  clear text text'
  induction entries generalizing entries' with
  | nil =>
    cases entries' with
    | nil => exact ⟨rfl, same⟩
    | cons e' entries' =>
      rw [List.flatMap_cons, List.append_assoc] at same
      exact absurd ⟨e', _, same⟩ ends
  | cons e entries ih =>
    rw [List.flatMap_cons, List.append_assoc] at same
    cases entries' with
    | nil => exact absurd ⟨e, _, same.symm⟩ ends'
    | cons e' entries' =>
      rw [List.flatMap_cons, List.append_assoc] at same
      obtain ⟨rfl, others⟩ := first_entry_unique same
      obtain ⟨rfl, rfl⟩ := ih others
      exact ⟨rfl, rfl⟩

/-! ## Scanning -/

theorem next_of_entry {scanner : PairScanner} (going : scanner.done = false) {e : Entry}
    {rest : List Char} (text : scanner.rest = e.chars ++ rest) : scanner.next =
      (some e.pair, ⟨rest, scanner.consumed + byteLength e.chars, false⟩) := by
  rw [next_of_read? going (by rw [text, e.read?_append]), text, List.drop_left, List.take_left]

theorem next_of_none {scanner : PairScanner} (going : scanner.done = false)
    (ends : ¬ BeginsWithEntry scanner.rest) :
    scanner.next = (none, ⟨scanner.rest, scanner.consumed, true⟩) :=
  next_of_read?_none going (read?_eq_none_iff.mpr ends)

/-- The scanner collects the entries into which the text is divided. -/
theorem collect_of_dividesInto {cs : List Char} {entries : List Entry} {rest : List Char}
    (divides : DividesInto cs entries rest) (consumed : Nat) :
    (PairScanner.mk cs consumed false).collect = (entries.map Entry.pair,
      ⟨rest, consumed + byteLength (entries.flatMap Entry.chars), true⟩) := by
  obtain ⟨rfl, ends⟩ := divides
  induction entries generalizing consumed with
  | nil => exact collect_of_none (next_of_none rfl ends)
  | cons e entries ih =>
    have text : (e :: entries).flatMap Entry.chars ++ rest =
        e.chars ++ (entries.flatMap Entry.chars ++ rest) := by
      rw [List.flatMap_cons, List.append_assoc]
    have next : (PairScanner.mk ((e :: entries).flatMap Entry.chars ++ rest) consumed false).next =
        _ := next_of_entry rfl text
    rw [collect_of_next next, ih]
    simp only [List.map_cons, List.flatMap_cons, byteLength_append, Nat.add_assoc]

/-- Every text is divided. -/
theorem exists_dividesInto (cs : List Char) : ∃ entries rest, DividesInto cs entries rest := by
  induction length : cs.length using Nat.strongRecOn generalizing cs with
  | ind n ih =>
    by_cases begins : BeginsWithEntry cs
    · obtain ⟨e, rest, rfl⟩ := begins
      have shorter : rest.length < n := by
        subst length
        simp [Entry.chars]
        omega
      obtain ⟨entries, rest', text, ends⟩ := ih rest.length shorter rest rfl
      exact ⟨e :: entries, rest', by rw [text, List.flatMap_cons, List.append_assoc], ends⟩
    · exact ⟨[], cs, rfl, begins⟩

end RecordRules

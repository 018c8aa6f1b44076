import Mathlib.Logic.ExistsUnique
import RecordRules.Proofs.Annotation.Grammar

/-!
# Scanning by bytes

An annotation can be scanned byte by byte, with the name and the quoted text cut out at byte
offsets (`readAt?`).  Then a backslash hides one byte and not one character, and the rest
of the character is looked at like everything else.  This makes no difference: no byte of such a
character is a quote or a backslash.  So every offset lies on a character boundary, and what is
read is what is read character by character.

`collect_iff_dividesInto` says what a whole scan gives.
-/

namespace RecordRules

/-! ## The scan -/

/-- How many bytes lead up to and with the closing quote; a backslash hides the byte after
it. -/
def closingByte : List UInt8 → Option Nat
  | [] => none
  | b :: bs =>
    if b = 0x22 then some 1
    else if b = 0x5c then
      match bs with
      | [] => none
      | _ :: bs => (closingByte bs).map (· + 2)
    else (closingByte bs).map (· + 1)

/-- Byte offsets of an entry; the quoted text may not end. -/
structure EntryOffsets where
  nameStart : Nat
  nameEnd : Nat
  quotedEnd : Option Nat

/-- The entry at the front of some bytes, but for the meaning of its quoted text. -/
def entryOffsets? (bytes : List UInt8) : Option EntryOffsets :=
  let spaces := (bytes.takeWhile (· = 0x20)).length
  let named := bytes.drop spaces
  let name := (named.takeWhile isNameByte).length
  if name = 0 then none
  else if (named.drop name).take 2 = [0x3a, 0x22] then
    some ⟨spaces, spaces + name,
      (closingByte (named.drop (name + 2))).map (spaces + name + 2 + ·)⟩
  else none

/-- The entry at a byte offset of a text, if there is one, and the offset of its end.  There is no
result if a slice that is taken does not lie on character boundaries. -/
def readAt? (cs : List Char) (offset : Nat) : Option (Option (Pair × Nat)) :=
  match entryOffsets? ((utf8 cs).drop offset) with
  | none => some none
  | some at_ =>
    (slice? cs (offset + at_.nameStart) (offset + at_.nameEnd)).bind fun name =>
      match at_.quotedEnd with
      | none => some none
      | some quotedEnd =>
        (slice? cs (offset + at_.nameEnd + 1) (offset + quotedEnd)).map fun quoted =>
          (quotedPair? name quoted).map (·, offset + quotedEnd)

/-! ## Bytes of characters -/

/-- The first byte of a character tells an ASCII character from all others, and the other
bytes are none. -/
theorem first_byte (c : Char) : ∃ b bs, String.utf8EncodeChar c = b :: bs ∧
    (∀ d : Char, d.toNat < 0x80 → (b = UInt8.ofNat d.toNat ↔ c = d)) ∧
    ∀ b ∈ bs, 0x80 ≤ b.toNat := by
  rcases Nat.lt_or_ge c.toNat 0x80 with low | high
  · refine ⟨_, [], ascii_byte low, fun d low' => ?_, by simp⟩
    constructor
    · intro same
      have codes := congrArg UInt8.toNat same
      rw [UInt8.toNat_ofNat', UInt8.toNat_ofNat', Nat.mod_eq_of_lt (by omega),
        Nat.mod_eq_of_lt (by omega)] at codes
      exact Char.toNat_inj.mp codes
    · rintro rfl
      rfl
  · have bytes := high_bytes high
    cases encoded : String.utf8EncodeChar c with
    | nil => exact absurd encoded String.utf8EncodeChar_ne_nil
    | cons b bs =>
      rw [encoded] at bytes
      rcases List.forall_mem_cons.mp bytes with ⟨first, others⟩
      refine ⟨b, bs, rfl, fun d low => ?_, others⟩
      constructor
      · rintro rfl
        rw [UInt8.toNat_ofNat'] at first
        omega
      · rintro rfl
        omega

/-- Bytes are taken as long as characters are. -/
theorem takeWhile_utf8 {p : UInt8 → Bool} {q : Char → Bool}
    (goes : ∀ c, q c = true → ∀ b ∈ String.utf8EncodeChar c, p b = true)
    (stops : ∀ c, q c = false → ∀ b bs, String.utf8EncodeChar c = b :: bs → p b = false)
    (cs : List Char) : (utf8 cs).takeWhile p = utf8 (cs.takeWhile q) := by
  induction cs with
  | nil => rfl
  | cons c cs ih =>
    rw [utf8_cons]
    cases goesOn : q c with
    | true =>
      rw [List.takeWhile_append_of_pos (goes c goesOn), ih, List.takeWhile_cons_of_pos goesOn,
        utf8_cons]
    | false =>
      obtain ⟨b, bs, encoded, -⟩ := first_byte c
      have stopped := stops c goesOn b bs encoded
      rw [encoded, List.cons_append, List.takeWhile_cons_of_neg (by simp [stopped]),
        List.takeWhile_cons_of_neg (by simp [goesOn]), utf8_nil]

theorem takeWhile_space (cs : List Char) :
    (utf8 cs).takeWhile (· = 0x20) = utf8 (cs.takeWhile (· = ' ')) := by
  refine takeWhile_utf8 (fun c goes b mem => ?_) (fun c stops b bs encoded => ?_) cs
  · obtain rfl : c = ' ' := of_decide_eq_true goes
    obtain rfl : b = 0x20 := List.mem_singleton.mp mem
    rfl
  · obtain ⟨b', bs', encoded', first, -⟩ := first_byte c
    cases encoded.symm.trans encoded'
    exact decide_eq_false fun same => of_decide_eq_false stops ((first ' ' (by decide)).mp same)

theorem takeWhile_name (cs : List Char) :
    (utf8 cs).takeWhile isNameByte = utf8 (cs.takeWhile isEntryNameChar) := by
  refine takeWhile_utf8 (fun c => (isEntryNameChar_iff_bytes c).mp)
    (fun c stops b bs encoded => ?_) cs
  have low : c.toNat < 0x80 := by
    rcases Nat.lt_or_ge c.toNat 0x80 with low | high
    · exact low
    · rw [isEntryNameChar_of_high high] at stops
      cases stops
  rw [ascii_byte low] at encoded
  cases encoded
  rw [isNameByte_of_ascii low, stops]

theorem drop_utf8 (front rest : List Char) :
    (utf8 (front ++ rest)).drop (byteLength front) = utf8 rest := by
  rw [utf8_append, ← length_utf8, List.drop_left]

theorem drop_takeWhile (q : Char → Bool) (cs : List Char) :
    (utf8 cs).drop (byteLength (cs.takeWhile q)) = utf8 (cs.dropWhile q) := by
  have dropped := drop_utf8 (cs.takeWhile q) (cs.dropWhile q)
  rwa [List.takeWhile_append_dropWhile] at dropped

/-- A colon and a quote. -/
theorem take_two_utf8 {cs : List Char} (starts : (utf8 cs).take 2 = [0x3a, 0x22]) :
    ∃ body, cs = ':' :: '"' :: body := by
  cases cs with
  | nil => cases starts
  | cons c cs =>
    obtain ⟨b, bs, encoded, ascii, -⟩ := first_byte c
    rw [utf8_cons, encoded, List.cons_append, List.take_succ_cons, List.cons.injEq] at starts
    obtain ⟨first, second⟩ := starts
    obtain rfl : c = ':' := (ascii ':' (by decide)).mp first
    cases encoded
    cases cs with
    | nil => cases second
    | cons d cs =>
      obtain ⟨b, bs, encoded, ascii, -⟩ := first_byte d
      rw [List.nil_append, utf8_cons, encoded, List.cons_append, List.take_succ_cons,
        List.cons.injEq] at second
      obtain rfl : d = '"' := (ascii '"' (by decide)).mp second.1
      exact ⟨cs, rfl⟩

/-! ## The closing quote -/

theorem closingByte_quote (bs : List UInt8) : closingByte (0x22 :: bs) = some 1 := by
  rw [closingByte.eq_def]
  exact if_pos rfl

theorem closingByte_backslash (b : UInt8) (bs : List UInt8) :
    closingByte (0x5c :: b :: bs) = (closingByte bs).map (· + 2) := by
  rw [closingByte.eq_def]
  exact (if_neg (by decide)).trans (if_pos rfl)

theorem closingByte_other {b : UInt8} (quote : b ≠ 0x22) (backslash : b ≠ 0x5c) (bs : List UInt8) :
    closingByte (b :: bs) = (closingByte bs).map (· + 1) := by
  rw [closingByte.eq_def]
  exact (if_neg quote).trans (if_neg backslash)

theorem closingByte_skip {bs : List UInt8} (other : ∀ b ∈ bs, b ≠ 0x22 ∧ b ≠ 0x5c)
    (rest : List UInt8) :
    closingByte (bs ++ rest) = (closingByte rest).map (bs.length + ·) := by
  induction bs with
  | nil =>
    rw [List.nil_append]
    cases closingByte rest <;> simp
  | cons b bs ih =>
    rcases List.forall_mem_cons.mp other with ⟨⟨quote, backslash⟩, others⟩
    rw [List.cons_append, closingByte_other quote backslash, ih others, Option.map_map]
    congr 1
    funext n
    simp only [Function.comp_apply, List.length_cons]
    omega

theorem skip_high {bs : List UInt8} (high : ∀ b ∈ bs, 0x80 ≤ b.toNat) (rest : List UInt8) :
    closingByte (bs ++ rest) = (closingByte rest).map (bs.length + ·) := by
  refine closingByte_skip (fun b mem => ?_) rest
  have high := high b mem
  constructor
  · rintro rfl
    exact absurd high (by decide)
  · rintro rfl
    exact absurd high (by decide)

/-- A backslash hides the first byte of a character, and the others are skipped. -/
theorem closingByte_utf8 (cs : List Char) :
    closingByte (utf8 cs) = (closingQuote cs).map fun n => byteLength (cs.take n) := by
  induction cs using closingQuote.induct with
  | case1 => rfl
  | case2 rest => exact closingByte_quote (utf8 rest)
  | case3 => rfl
  | case4 c cs ih =>
    obtain ⟨b, bs, encoded, -, others⟩ := first_byte c
    have size : c.utf8Size = bs.length + 1 := by
      rw [← String.length_utf8EncodeChar, encoded, List.length_cons]
    have bytes : utf8 ('\\' :: c :: cs) = 0x5c :: b :: (bs ++ utf8 cs) := by
      rw [utf8_cons, utf8_cons, encoded]
      rfl
    rw [bytes, closingByte_backslash, skip_high others, ih, closingQuote, Option.map_map,
      Option.map_map, Option.map_map]
    congr 1
    funext n
    have escape : ('\\' : Char).utf8Size = 1 := by decide
    simp only [Function.comp_apply, List.take_succ_cons, byteLength, size, escape]
    omega
  | case5 c cs other alone hides ih =>
    have plain : c ≠ '\\' := by
      rintro rfl
      cases cs with
      | nil => exact alone rfl rfl
      | cons d cs => exact hides d cs rfl rfl
    obtain ⟨b, bs, encoded, first, others⟩ := first_byte c
    have size : c.utf8Size = bs.length + 1 := by
      rw [← String.length_utf8EncodeChar, encoded, List.length_cons]
    have quote : b ≠ 0x22 := fun same => other ((first '"' (by decide)).mp same)
    have backslash : b ≠ 0x5c := fun same => plain ((first '\\' (by decide)).mp same)
    rw [utf8_cons, encoded, List.cons_append, closingByte_other quote backslash, skip_high others,
      ih, closingQuote_plain other plain, Option.map_map, Option.map_map, Option.map_map]
    congr 1
    funext n
    simp only [Function.comp_apply, List.take_succ_cons, byteLength, size]
    omega

/-! ## Entries -/

theorem byteLength_eq_zero_iff {cs : List Char} : byteLength cs = 0 ↔ cs = [] := by
  cases cs with
  | nil => exact ⟨fun _ => rfl, fun _ => rfl⟩
  | cons c cs =>
    have size := c.utf8Size_pos
    rw [byteLength]
    exact ⟨fun zero => absurd zero (by omega), fun empty => by cases empty⟩

/-- The byte offsets where an entry opens. -/
theorem entryOffsets?_of_opens {cs spaces name body : List Char}
    (opens : Opens cs spaces name body) :
    entryOffsets? (utf8 cs) = some ⟨byteLength spaces, byteLength spaces + byteLength name,
      (closingQuote body).map fun n =>
        byteLength spaces + byteLength name + 2 + byteLength (body.take n)⟩ := by
  obtain ⟨takeSpaces, dropSpaces⟩ := opens.spaced
  obtain ⟨-, takeName, dropName⟩ := opens.named
  have named := drop_takeWhile (· = ' ') cs
  have after := drop_takeWhile isEntryNameChar (name ++ ':' :: '"' :: body)
  have behind : (utf8 (':' :: '"' :: body)).drop 2 = utf8 body := rfl
  rw [takeSpaces, dropSpaces] at named
  rw [takeName, dropName] at after
  rw [entryOffsets?, takeWhile_space, takeSpaces, length_utf8, named, takeWhile_name, takeName,
    length_utf8, if_neg fun zero => opens.name_ne_nil (byteLength_eq_zero_iff.mp zero),
    ← List.drop_drop, after, behind, closingByte_utf8, Option.map_map]
  exact if_pos rfl

/-- There are no such offsets where no entry opens. -/
theorem opens_of_entryOffsets? {cs : List Char} {offsets : EntryOffsets}
    (found : entryOffsets? (utf8 cs) = some offsets) :
    ∃ spaces name body, Opens cs spaces name body := by
  have splitSpaces : cs.takeWhile (· = ' ') ++ cs.dropWhile (· = ' ') = cs :=
    List.takeWhile_append_dropWhile
  have splitName := List.takeWhile_append_dropWhile (p := isEntryNameChar)
    (l := cs.dropWhile (· = ' '))
  rw [entryOffsets?, takeWhile_space, length_utf8, drop_takeWhile, takeWhile_name, length_utf8,
    drop_takeWhile] at found
  split at found
  · cases found
  · next some_name =>
    split at found
    · next starts =>
      obtain ⟨body, after⟩ := take_two_utf8 starts
      rw [after] at splitName
      rw [← splitName] at splitSpaces
      exact ⟨_, _, body, splitSpaces.symm,
        fun c mem => of_decide_eq_true (List.all_eq_true.mp List.all_takeWhile c mem),
        fun empty => some_name (byteLength_eq_zero_iff.mpr empty),
        fun c mem => List.all_eq_true.mp List.all_takeWhile c mem⟩
    · cases found

theorem slice?_name (front spaces name after : List Char) :
    slice? (front ++ (spaces ++ (name ++ after))) (byteLength front + byteLength spaces)
      (byteLength front + (byteLength spaces + byteLength name)) = some name := by
  have slice := slice?_append (front ++ spaces) name after
  rwa [byteLength_append, List.append_assoc, Nat.add_assoc] at slice

theorem slice?_quoted (front spaces name body : List Char) (n : Nat) :
    slice? (front ++ (spaces ++ (name ++ ':' :: '"' :: body)))
      (byteLength front + (byteLength spaces + byteLength name) + 1)
      (byteLength front + (byteLength spaces + byteLength name + 2 + byteLength (body.take n))) =
        some ('"' :: body.take n) := by
  have colon : ('\x3a' : Char).utf8Size = 1 := by decide
  have quote : ('"' : Char).utf8Size = 1 := by decide
  have slice := slice?_append (front ++ spaces ++ name ++ [':']) ('"' :: body.take n) (body.drop n)
  have text : front ++ spaces ++ name ++ [':'] ++ ('"' :: body.take n ++ body.drop n) =
      front ++ (spaces ++ (name ++ ':' :: '"' :: body)) := by
    simp
  have low : byteLength (front ++ spaces ++ name ++ [':']) =
      byteLength front + (byteLength spaces + byteLength name) + 1 := by
    simp only [byteLength_append, byteLength, colon]
    omega
  rw [text, low] at slice
  refine Eq.trans ?_ slice
  congr 1
  simp only [byteLength, quote]
  omega

theorem byteLength_take_entry (spaces name body : List Char) (n : Nat) :
    byteLength ((spaces ++ (name ++ ':' :: '"' :: body)).take
      (spaces.length + name.length + 2 + n)) =
      byteLength spaces + byteLength name + 2 + byteLength (body.take n) := by
  have colon : ('\x3a' : Char).utf8Size = 1 := by decide
  have quote : ('"' : Char).utf8Size = 1 := by decide
  have behind : spaces.length + name.length + 2 + n - spaces.length - name.length = n + 2 := by
    omega
  rw [List.take_append, List.take_append, List.take_of_length_le (by omega),
    List.take_of_length_le (by omega), behind, List.take_succ_cons, List.take_succ_cons]
  simp only [byteLength_append, byteLength, colon, quote]
  omega

/-- At any character boundary, the entry that is read byte by byte is the one that is read
character by character, and no slice lies across a character. -/
theorem readAt?_eq (front rest : List Char) :
    readAt? (front ++ rest) (byteLength front) = some ((Pair.read? rest).map fun read =>
      (read.1, byteLength front + byteLength (rest.take read.2))) := by
  rw [readAt?, drop_utf8]
  by_cases opened : ∃ spaces name body, Opens rest spaces name body
  · obtain ⟨spaces, name, body, opens⟩ := opened
    have nameSlice := slice?_name front spaces name (':' :: '"' :: body)
    rw [← opens.text] at nameSlice
    rw [entryOffsets?_of_opens opens, opens.read?_eq]
    dsimp only
    rw [nameSlice, Option.bind_some]
    cases closingQuote body with
    | none => rfl
    | some n =>
      have quotedSlice := slice?_quoted front spaces name body n
      have taken := byteLength_take_entry spaces name body n
      rw [← opens.text] at quotedSlice taken
      dsimp only [Option.map_some, Option.bind_some]
      rw [quotedSlice, Option.map_some, Option.map_map]
      simp only [Function.comp_def, taken]
  · have offsets : entryOffsets? (utf8 rest) = none :=
      Option.eq_none_iff_forall_ne_some.mpr fun _ found => opened (opens_of_entryOffsets? found)
    have read : Pair.read? rest = none :=
      Option.eq_none_iff_forall_ne_some.mpr fun _ found => opened (opens_of_read? found)
    rw [offsets, read]
    rfl

/-! ## A whole scan -/

/-- A place that is reached by asking for entries. -/
inductive Reached (text : String) : PairScanner → Prop
  | start : Reached text (.start text)
  | next {scanner : PairScanner} : Reached text scanner → Reached text scanner.next.2

/-- A scan stands on character boundaries only. -/
theorem boundary_of_reached {text : String} {scanner : PairScanner}
    (reached : Reached text scanner) :
    ∃ front, text.toList = front ++ scanner.rest ∧ scanner.consumed = byteLength front := by
  induction reached with
  | start => exact ⟨[], rfl, rfl⟩
  | @next scanner _ ih =>
    obtain ⟨front, split, consumed⟩ := ih
    cases going : scanner.done with
    | true =>
      rw [next_of_done going]
      exact ⟨front, split, consumed⟩
    | false =>
      cases read : Pair.read? scanner.rest with
      | none =>
        rw [next_of_read?_none going read]
        exact ⟨front, split, consumed⟩
      | some found =>
        rw [next_of_read? going read]
        refine ⟨front ++ scanner.rest.take found.2, ?_, ?_⟩
        · rw [split, List.append_assoc, List.take_append_drop]
        · rw [byteLength_append, consumed]

/-- Wherever a scan stands, the entry that it reads next is the one that is read byte by byte. -/
theorem readAt?_of_reached {text : String} {scanner : PairScanner} (reached : Reached text scanner)
    (going : scanner.done = false) :
    readAt? text.toList scanner.consumed =
      some (scanner.next.1.map fun pair => (pair, scanner.next.2.consumed)) := by
  obtain ⟨front, split, consumed⟩ := boundary_of_reached reached
  rw [split, consumed, readAt?_eq]
  cases read : Pair.read? scanner.rest with
  | none =>
    rw [next_of_read?_none going read]
    rfl
  | some found =>
    rw [next_of_read? going read, consumed]
    rfl

/-- Once there is no entry, the scan stands still. -/
theorem next_of_next_none {scanner after : PairScanner} (next : scanner.next = (none, after)) :
    after.consumed = scanner.consumed ∧ after.next = (none, after) := by
  cases going : scanner.done with
  | true =>
    rw [next_of_done going] at next
    cases next
    exact ⟨rfl, next_of_done going⟩
  | false =>
    cases read : Pair.read? scanner.rest with
    | none =>
      rw [next_of_read?_none going read] at next
      cases next
      exact ⟨rfl, next_of_done rfl⟩
    | some found =>
      rw [next_of_read? going read] at next
      cases next

/-- What a scan yields and where it ends is the only division of the text into entries and a
rest that does not begin with one. -/
theorem yields_iff_dividesInto (text : String) (pairs : List Pair) (consumed : Nat) :
    (annotationPairs text = pairs ∧ (PairScanner.start text).collect.2.consumed = consumed) ↔
      ∃ (entries : List Entry) (rest : List Char),
        splitAtByte? consumed text.toList = some (entries.flatMap Entry.chars, rest) ∧
        ¬ BeginsWithEntry rest ∧ entries.map Entry.pair = pairs := by
  have collected {entries : List Entry} {rest : List Char}
      (divides : DividesInto text.toList entries rest) :
      (PairScanner.start text).collect = (entries.map Entry.pair,
        ⟨rest, byteLength (entries.flatMap Entry.chars), true⟩) := by
    have scan := collect_of_dividesInto divides 0
    rwa [Nat.zero_add] at scan
  constructor
  · rintro ⟨rfl, rfl⟩
    obtain ⟨entries, rest, divides⟩ := exists_dividesInto text.toList
    rw [annotationPairs, collected divides]
    exact ⟨entries, rest, splitAtByte?_eq_some_iff.mpr ⟨divides.1, rfl⟩, divides.2, rfl⟩
  · rintro ⟨entries, rest, split, ends, rfl⟩
    obtain ⟨whole, rfl⟩ := splitAtByte?_eq_some_iff.mp split
    rw [annotationPairs, collected ⟨whole, ends⟩]
    exact ⟨rfl, rfl⟩

/-- A scan reads its grammar and nothing more: it yields the entries and ends at the byte of the
one division of the text, each entry has been cut out on character boundaries, its value is what
its quoted text stands for, and the scan stays where it ends. -/
theorem collect_iff_dividesInto (text : String) :
    (∀ pairs consumed,
      (annotationPairs text = pairs ∧ (PairScanner.start text).collect.2.consumed = consumed) ↔
        ∃ (entries : List Entry) (rest : List Char),
          splitAtByte? consumed text.toList = some (entries.flatMap Entry.chars, rest) ∧
          ¬ BeginsWithEntry rest ∧ entries.map Entry.pair = pairs) ∧
    (∃! division : List Entry × List Char, DividesInto text.toList division.1 division.2) ∧
    (∀ scanner, Reached text scanner → scanner.done = false →
      readAt? text.toList scanner.consumed =
        some (scanner.next.1.map fun pair => (pair, scanner.next.2.consumed))) ∧
    (∀ pair ∈ annotationPairs text, unquote pair.quoted = .ok pair.value) ∧
    ∀ scanner after, Reached text scanner → scanner.next = (none, after) →
      after.consumed = scanner.consumed ∧ after.next = (none, after) := by
  refine ⟨yields_iff_dividesInto text, ?_, fun _ => readAt?_of_reached,
    fun _ => unquote_of_mem_annotationPairs, fun _ _ _ => next_of_next_none⟩
  obtain ⟨entries, rest, divides⟩ := exists_dividesInto text.toList
  refine ⟨(entries, rest), divides, fun division divides' => ?_⟩
  obtain ⟨same, same'⟩ := dividesInto_unique divides' divides
  exact Prod.ext same same'

/-- An entry with a character of two bytes, and a rest that is no entry. -/
theorem collect_iff_dividesInto_of_rest :
    annotationPairs "n:\"é\" x" = [⟨"n", "\"é\"", "é"⟩] ∧
      (PairScanner.start "n:\"é\" x").collect.2.consumed = 6 := by
  let entry : Entry := ⟨0, ['n'], ['é'], "é", by simp, List.all_eq_true.mp (by decide),
    .plain (by decide) (by decide) .nil, rfl⟩
  have ends : ¬ BeginsWithEntry [' ', 'x'] := read?_eq_none_iff.mp rfl
  exact ((collect_iff_dividesInto "n:\"é\" x").1 _ 6).mpr ⟨[entry], [' ', 'x'], rfl, ends, rfl⟩

end RecordRules

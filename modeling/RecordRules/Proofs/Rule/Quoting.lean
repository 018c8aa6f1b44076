import RecordRules.Proofs.Rule.Lexing
import RecordRules.Text.Quoted

/-!
# Quoted text as a string literal

Rule texts show strings in quoted form, and the scanner takes that form for a string literal.  It
knows the escapes of the quote, the backslash and the four named controls.  Of an escape by number
it only drops the backslash: from the quoted form of the character U+0001 it reads `u{1}`, not the
character itself.

So what comes back of a string is `reread`: everything is as it was but the characters that are
written by their number (`scan_quoted`, `reread_eq_self_iff`).
-/

namespace RecordRules

/-- The characters with an escape of their own. -/
def namedEscapes : List Char :=
  ['"', '\\', '\n', '\r', '\t', '\x00']

/-- Quoted text writes the character by its number. -/
def isNumbered (c : Char) : Bool :=
  isHidden c && !namedEscapes.contains c

/-- What the scanner reads of the quoted form of a character. -/
def rereadChar (c : Char) : List Char :=
  if isNumbered c then ['u', '\x7b'] ++ Nat.toDigits 16 c.toNat ++ ['\x7d'] else [c]

/-- What the scanner reads of the quoted form of a string. -/
def reread (s : String) : String :=
  String.ofList (s.toList.flatMap rereadChar)

/-! ## Escapes -/

theorem mem_toDigits {base n : Nat} (several : 1 < base) {c : Char}
    (mem : c ∈ Nat.toDigits base n) : ∃ d < base, c = Nat.digitChar d := by
  induction n using Nat.strong_induction_on with
  | _ n ih =>
    rcases Nat.lt_or_ge n base with less | more
    · rw [Nat.toDigits_of_lt_base less] at mem
      exact ⟨n, less, List.mem_singleton.mp mem⟩
    · rw [Nat.toDigits_of_base_le several more, List.mem_append] at mem
      rcases mem with earlier | last
      · exact ih (n / base) (Nat.div_lt_self (by omega) several) earlier
      · exact ⟨n % base, Nat.mod_lt n (by omega), List.mem_singleton.mp last⟩

/-- The characters of an escape by number. -/
def numberMarks : List Char :=
  ['u', '\x7b', '\x7d'] ++ (List.range 16).map Nat.digitChar

theorem mem_rereadChar {c d : Char} (numbered : isNumbered c = true) (mem : d ∈ rereadChar c) :
    d ∈ numberMarks := by
  have braces : ∀ d ∈ ['u', '\x7b', '\x7d'], d ∈ numberMarks := fun _ => List.mem_append_left _
  rw [rereadChar, if_pos numbered, List.mem_append, List.mem_append] at mem
  rcases mem with (front | digit) | back
  · exact braces d (List.mem_append_left ['\x7d'] front)
  · obtain ⟨n, less, rfl⟩ := mem_toDigits (by decide) digit
    exact List.mem_append_right _ (List.mem_map_of_mem (List.mem_range.mpr less))
  · exact braces d (List.mem_append_right ['u', '\x7b'] back)

theorem plain_of_mark {c : Char} (mem : c ∈ numberMarks) :
    c ≠ '"' ∧ c ≠ '\\' ∧ isNumbered c = false := by
  have all :
      (numberMarks.all fun c => decide (c ≠ '"' ∧ c ≠ '\\' ∧ isNumbered c = false)) = true := by
    decide +kernel
  exact of_decide_eq_true (List.all_eq_true.mp all c mem)

theorem spellsString_plain {cs : List Char} (plain : ∀ c ∈ cs, c ≠ '"' ∧ c ≠ '\\') :
    SpellsString '"' cs cs := by
  induction cs with
  | nil => exact .nil
  | cons c cs ih =>
    obtain ⟨first, others⟩ := List.forall_mem_cons.mp plain
    exact .plain first.1 first.2 (ih others)

theorem escapeChar_of_unnamed {c : Char} (unnamed : c ∉ namedEscapes) :
    escapeChar c =
      if isHidden c then ['\\', 'u', '\x7b'] ++ Nat.toDigits 16 c.toNat ++ ['\x7d'] else [c] := by
  simp only [namedEscapes, List.mem_cons, List.not_mem_nil, or_false, not_or] at unnamed
  obtain ⟨quote, backslash, line, back, tab, null⟩ := unnamed
  rw [escapeChar, if_neg quote, if_neg backslash, if_neg line, if_neg back, if_neg tab,
    if_neg null]

theorem isNumbered_eq_true_iff {c : Char} :
    isNumbered c = true ↔ isHidden c = true ∧ c ∉ namedEscapes := by
  simp [isNumbered]

/-- The quoted form of a character spells what comes back of it. -/
theorem spellsString_escapeChar (c : Char) : SpellsString '"' (escapeChar c) (rereadChar c) := by
  by_cases numbered : isNumbered c = true
  · obtain ⟨hidden, unnamed⟩ := isNumbered_eq_true_iff.mp numbered
    obtain ⟨tail, is⟩ : ∃ tail, rereadChar c = 'u' :: tail := by
      rw [rereadChar, if_pos numbered]
      exact ⟨_, rfl⟩
    have escaped : escapeChar c = '\\' :: 'u' :: tail := by
      rw [← is, rereadChar, if_pos numbered, escapeChar_of_unnamed unnamed, if_pos hidden]
      rfl
    have plain : ∀ d ∈ tail, d ≠ '"' ∧ d ≠ '\\' := by
      intro d mem
      have mark := mem_rereadChar numbered (is ▸ List.mem_cons_of_mem 'u' mem)
      exact ⟨(plain_of_mark mark).1, (plain_of_mark mark).2.1⟩
    rw [escaped, is]
    exact .escape (spellsString_plain plain)
  · rw [rereadChar, if_neg numbered]
    by_cases named : c ∈ namedEscapes
    · simp only [namedEscapes, List.mem_cons, List.not_mem_nil, or_false] at named
      rcases named with rfl | rfl | rfl | rfl | rfl | rfl <;> exact .escape .nil
    · have shown : isHidden c ≠ true := fun hidden =>
        numbered (isNumbered_eq_true_iff.mpr ⟨hidden, named⟩)
      have escaped : escapeChar c = [c] := by rw [escapeChar_of_unnamed named, if_neg shown]
      simp only [namedEscapes, List.mem_cons, not_or] at named
      rw [escaped]
      exact .plain named.1 named.2.1 .nil

/-! ## Strings -/

theorem spellsString_quoted (cs : List Char) :
    SpellsString '"' (cs.flatMap escapeChar) (cs.flatMap rereadChar) := by
  induction cs with
  | nil => exact .nil
  | cons c cs ih =>
    rw [List.flatMap_cons, List.flatMap_cons]
    exact (spellsString_escapeChar c).append ih

/-- The quoted form of a string is a word wherever it stands. -/
theorem word_quoted (s : String) (text : List Char) :
    Word (.string (reread s)) '"' (s.toList.flatMap escapeChar ++ ['"']) text where
  not_blank := by decide
  read position := by
    rw [List.append_assoc, List.singleton_append, List.length_append, lexeme_eq_ok_iff]
    exact .string (.inl rfl) (spellsString_quoted s.toList)

theorem toList_quoted (s : String) :
    (quoted s).toList = '"' :: (s.toList.flatMap escapeChar ++ ['"']) := by
  rw [quoted, String.toList_ofList, quoteChars]

/-- The scanner reads the quoted form of a string as what comes back of it. -/
theorem scan_quoted (s : String) :
    (Token.scan (quoted s)).map (List.map Token.kind) = .ok [.string (reread s), .ending] := by
  have blank : ∀ c ∈ ([] : List Char), isBlank c = true := List.forall_mem_nil _
  have lexed : Lexed [.string (reread s)] (quoted s).toList := by
    have lexed : Lexed _ _ := .cons blank (word_quoted s []) (.nil blank)
    rwa [List.append_nil, List.nil_append, ← toList_quoted] at lexed
  obtain ⟨body, last, scanned, kinds, ending⟩ := scanFrom_of_lexed lexed 0
  rw [Token.scan, scanned]
  change Except.ok ((body ++ [last]).map Token.kind) = _
  rw [List.map_append, kinds, List.map_singleton, ending]
  rfl

/-- No character that comes back is written by its number. -/
theorem not_isNumbered_of_reread {s : String} {c : Char} (mem : c ∈ (reread s).toList) :
    isNumbered c = false := by
  rw [reread, String.toList_ofList, List.mem_flatMap] at mem
  obtain ⟨d, -, mem⟩ := mem
  by_cases numbered : isNumbered d = true
  · exact (plain_of_mark (mem_rereadChar numbered mem)).2.2
  · rw [rereadChar, if_neg numbered, List.mem_singleton] at mem
    rw [mem]
    simpa using numbered

/-- A string comes back if none of its characters is written by its number. -/
theorem reread_eq_self_iff (s : String) :
    reread s = s ↔ ∀ c ∈ s.toList, isNumbered c = false := by
  constructor
  · intro same c mem
    rw [← same] at mem
    exact not_isNumbered_of_reread mem
  · intro none
    have each : ∀ c ∈ s.toList, rereadChar c = [c] := fun c mem => by
      rw [rereadChar, none c mem]
      rfl
    rw [reread, List.flatMap_congr each, List.flatMap_singleton', String.ofList_toList]

end RecordRules

import RecordRules.Proofs.Annotation.Writing

/-!
# What quoted values stand for

`Spells` says how a character may be written between two quotes.  Nothing else is read:
whatever `unescape` takes off a text is an escape of that kind, so a quoted value can be
unquoted exactly if it is written from characters in one of these ways.  The number that
hexadecimal digits are read into fits a word of 32 bits all the way.
-/

namespace RecordRules

/-! ## Digits -/

/-- The character is a digit of the value in the base, in lower or upper case. -/
def IsDigitOf (base : Nat) (c : Char) (v : Nat) : Prop :=
  v < base ∧ (c = v.digitChar ∨ c = v.digitChar.toUpper)

instance (base : Nat) (c : Char) (v : Nat) : Decidable (IsDigitOf base c v) :=
  inferInstanceAs (Decidable (_ ∧ _))

theorem hexDigit_isDigitOf {c : Char} {v : Nat} (read : hexDigit? c = some v) :
    IsDigitOf 16 c v := by
  have digits : ∀ n < 103, ∀ v ∈ hexDigit? (Char.ofNat n), IsDigitOf 16 (Char.ofNat n) v := by
    decide
  have low : c.toNat < 103 := by
    rw [hexDigit?] at read
    split at read
    · next digit =>
      have range := Char.isDigit_iff_toNat.mp digit
      simp at range
      omega
    · split at read
      · next lower => exact Nat.lt_succ_of_le (UInt32.le_iff_toNat_le.mp lower.2)
      · split at read
        · next upper =>
          have top : c.toNat ≤ 'F'.toNat := UInt32.le_iff_toNat_le.mp upper.2
          simp at top
          omega
        · cases read
  have is := digits c.toNat low v
  rw [Char.ofNat_toNat] at is
  exact is read

theorem octalDigit_isDigitOf {c : Char} {v : Nat} (read : octalDigit? c = some v) :
    IsDigitOf 8 c v := by
  have digits : ∀ n < 56, ∀ v ∈ octalDigit? (Char.ofNat n), IsDigitOf 8 (Char.ofNat n) v := by
    decide
  have low : c.toNat < 56 := by
    rw [octalDigit?] at read
    split at read
    · next range => exact Nat.lt_succ_of_le (UInt32.le_iff_toNat_le.mp range.2)
    · cases read
  have is := digits c.toNat low v
  rw [Char.ofNat_toNat] at is
  exact is read

/-- What is read as a number is exactly so many digits of it, behind those that were read
before. -/
theorem numeral_of_readCode {digit? : Char → Option Nat} {base : Nat}
    (digits : ∀ c v, digit? c = some v → IsDigitOf base c v) {count before code : Nat}
    {cs rest pre : List Char} (numeral : Numeral base pre before)
    (read : readCode digit? base count before cs = some (code, rest)) :
    ∃ ds, cs = ds ++ rest ∧ ds.length = count ∧ Numeral base (pre ++ ds) code := by
  induction count generalizing before cs pre with
  | zero =>
    cases read
    exact ⟨[], rfl, rfl, (List.append_nil pre).symm ▸ numeral⟩
  | succ count ih =>
    cases cs with
    | nil => cases read
    | cons c cs =>
      rw [readCode] at read
      cases digit : digit? c with
      | none =>
        rw [digit] at read
        cases read
      | some v =>
        rw [digit] at read
        obtain ⟨low, is⟩ := digits c v digit
        obtain ⟨ds, rfl, length, more⟩ := ih (numeral.snoc low is) read
        refine ⟨c :: ds, rfl, ?_, ?_⟩
        · rw [List.length_cons, length]
        · rwa [List.append_assoc, List.singleton_append] at more

/-- Reading digits may stop on the way and go on from the number so far. -/
theorem readCode_add (digit? : Char → Option Nat) (base first more before : Nat)
    (cs : List Char) :
    readCode digit? base (first + more) before cs =
      (readCode digit? base first before cs).bind fun read =>
        readCode digit? base more read.1 read.2 := by
  induction first generalizing before cs with
  | zero => rw [Nat.zero_add, readCode, Option.bind_some]
  | succ first ih =>
    rw [Nat.succ_add]
    cases cs with
    | nil => rfl
    | cons c cs =>
      rw [readCode, readCode]
      cases digit? c with
      | none => rfl
      | some v => exact ih _ cs

theorem lt_of_numeral {base : Nat} {ds : List Char} {n : Nat} (numeral : Numeral base ds n) :
    n < Nat.pow base ds.length := by
  induction numeral with
  | nil => exact Nat.one_pos
  | @snoc ds n v d _ low _ ih =>
    have step : (n + 1) * base ≤ Nat.pow base ds.length * base := Nat.mul_le_mul_right base ih
    rw [Nat.add_one_mul] at step
    rw [List.length_append, List.length_singleton]
    change _ < Nat.pow base ds.length * base
    omega

/-- Up to eight hexadecimal digits are read into a word of 32 bits. -/
theorem readCode_le_word {count code : Nat} {cs rest : List Char} (few : count ≤ 8)
    (read : readCode hexDigit? 16 count 0 cs = some (code, rest)) : code ≤ 0xffffffff := by
  obtain ⟨ds, -, length, numeral⟩ :=
    numeral_of_readCode (fun _ _ => hexDigit_isDigitOf) .nil read
  rw [List.nil_append] at numeral
  have bound := lt_of_numeral numeral
  rw [length] at bound
  have most : Nat.pow 16 count ≤ 0x100000000 := Nat.pow_le_pow_right (by decide) few
  omega

/-! ## Escapes -/

theorem charOfCode?_eq_some {code : Nat} {c : Char} (is : charOfCode? code = some c) :
    c.toNat = code := by
  rw [charOfCode?] at is
  split at is
  · next valid =>
    cases is
    rw [Char.ofNat, dif_pos valid]
    rfl
  · cases is

theorem numeral_of_hexEscape {count : Nat} {cs rest : List Char} {c : Char}
    (read : hexEscape count cs = some (c, rest)) :
    ∃ ds, cs = ds ++ rest ∧ ds.length = count ∧ Numeral 16 ds c.toNat := by
  rw [hexEscape] at read
  obtain ⟨⟨code, left⟩, digits, read⟩ := Option.bind_eq_some_iff.mp read
  obtain ⟨ch, is, same⟩ := Option.map_eq_some_iff.mp read
  cases same
  rw [charOfCode?_eq_some is]
  exact numeral_of_readCode (fun _ _ => hexDigit_isDigitOf) .nil digits

theorem numeral_of_octalEscape {cs rest : List Char} {c : Char}
    (read : octalEscape cs = some (c, rest)) :
    ∃ ds, cs = ds ++ rest ∧ ds.length = 3 ∧ c.toNat ≤ 0xff ∧ Numeral 8 ds c.toNat := by
  rw [octalEscape] at read
  obtain ⟨⟨code, left⟩, digits, read⟩ := Option.bind_eq_some_iff.mp read
  dsimp only at read
  split at read
  · next low =>
    obtain ⟨ch, is, same⟩ := Option.map_eq_some_iff.mp read
    cases same
    rw [charOfCode?_eq_some is]
    obtain ⟨ds, is, length, numeral⟩ :=
      numeral_of_readCode (fun _ _ => octalDigit_isDigitOf) .nil digits
    exact ⟨ds, is, length, low, numeral⟩
  · cases read

/-- Whatever is taken for an escape is one. -/
theorem spells_of_unescape {cs rest : List Char} {c : Char}
    (read : unescape cs = some (c, rest)) :
    ∃ escape, cs = escape ++ rest ∧ Spells ('\\' :: escape) c := by
  have hexadecimal : ∀ {l : Char} {count : Nat} {cs : List Char}, (l, count) ∈ hexEscapes →
      hexEscape count cs = some (c, rest) →
        ∃ escape, l :: cs = escape ++ rest ∧ Spells ('\\' :: escape) c := by
    intro l count cs mem read
    obtain ⟨ds, rfl, rfl, numeral⟩ := numeral_of_hexEscape read
    exact ⟨l :: ds, rfl, .hex mem numeral⟩
  have letter : ∀ {l d : Char} {cs : List Char}, (l, d) ∈ letterEscapes →
      some (d, cs) = some (c, rest) →
        ∃ escape, l :: cs = escape ++ rest ∧ Spells ('\\' :: escape) c := by
    intro l d cs mem read
    cases read
    exact ⟨[l], rfl, .letter mem⟩
  revert read
  fun_cases unescape cs <;> intro read
  case case1 => cases read
  case case12 => exact hexadecimal (by decide) read
  case case13 => exact hexadecimal (by decide) read
  case case14 => exact hexadecimal (by decide) read
  case case15 =>
    obtain ⟨ds, is, three, low, numeral⟩ := numeral_of_octalEscape read
    exact ⟨ds, is, .octal three low numeral⟩
  case case16 => cases read
  all_goals exact letter (by decide) read

/-! ## Values -/

/-- What is decoded is written from characters, each in a way that it may be written. -/
theorem spellsAll_of_decodeBody {body value : List Char} (decodes : decodeBody body = some value) :
    SpellsAll body value := by
  fun_induction decodeBody body generalizing value with
  | case1 =>
    cases decodes
    exact .nil
  | case2 => cases decodes
  | case3 cs c rest read _ ih =>
    obtain ⟨others, decoded, rfl⟩ := Option.map_eq_some_iff.mp decodes
    obtain ⟨escape, rfl, spells⟩ := spells_of_unescape read
    exact .cons spells (ih decoded)
  | case4 => cases decodes
  | case5 c cs bare backslash ih =>
    obtain ⟨others, decoded, rfl⟩ := Option.map_eq_some_iff.mp decodes
    rw [not_or] at bare
    exact .cons (.plain backslash bare.1 bare.2) (ih decoded)

/-- What stands between two double quotes. -/
theorem stripQuotes_eq_some_iff {cs body : List Char} :
    stripQuotes cs = some body ↔ cs = '"' :: (body ++ ['"']) := by
  constructor
  · intro strips
    unfold stripQuotes at strips
    split at strips
    · next rest =>
      split at strips
      · next last =>
        cases strips
        obtain ⟨body, rfl⟩ := List.getLast?_eq_some_iff.mp last
        rw [List.dropLast_concat]
      · cases strips
    · cases strips
  · rintro rfl
    exact stripQuotes_quoted body

/-- The text is a double quote, a way to write the value, and a double quote. -/
def Quotes (quoted value : String) : Prop :=
  ∃ body, SpellsAll body value.toList ∧ quoted.toList = '"' :: (body ++ ['"'])

/-- Looking for escapes first makes no difference. -/
theorem unquote_eq_decode {quoted : String} {body : List Char}
    (strips : stripQuotes quoted.toList = some body) :
    unquote quoted =
      match decodeBody body with
      | some value => .ok (String.ofList value)
      | none => .error ⟨quoted⟩ := by
  rw [unquote, strips]
  dsimp only
  split
  · next plain => rw [decodeBody_of_plain (by simpa using plain)]
  · rfl

theorem unquote_eq_ok_iff {quoted value : String} :
    unquote quoted = .ok value ↔ Quotes quoted value := by
  constructor
  · intro is
    cases strips : stripQuotes quoted.toList with
    | none =>
      rw [unquote, strips] at is
      cases is
    | some body =>
      rw [unquote_eq_decode strips] at is
      cases decodes : decodeBody body with
      | none =>
        rw [decodes] at is
        cases is
      | some chars =>
        rw [decodes] at is
        cases is
        refine ⟨body, ?_, stripQuotes_eq_some_iff.mp strips⟩
        rw [String.toList_ofList]
        exact spellsAll_of_decodeBody decodes
  · rintro ⟨body, spells, is⟩
    have unquoted := unquote_of_spellsAll spells
    rwa [← is, String.ofList_toList, String.ofList_toList] at unquoted

/-- Digits must name a character; this is one half of a pair of code units. -/
example : unquote "\"\\ud800\"" = .error ⟨"\"\\ud800\""⟩ := by cbv

theorem unquote_eq_error {quoted : String} {e : UnquoteError} (is : unquote quoted = .error e) :
    e = ⟨quoted⟩ := by
  rw [unquote] at is
  split at is
  · cases is
    rfl
  · split at is
    · cases is
    · split at is
      · cases is
      · cases is
        rfl

/-- A text is unquoted to a value exactly if it is a double quote, a way to write the value
character by character, and a double quote; every other text is refused with an error that
carries it.  Whether escapes are looked for first makes no difference.  Hexadecimal digits are
read one after the other into a number that is never larger than a word of 32 bits. -/
theorem unquote_decodes (quoted : String) :
    (∀ value, unquote quoted = .ok value ↔ Quotes quoted value) ∧
      (∀ e, unquote quoted = .error e ↔ e = ⟨quoted⟩ ∧ ∀ value, ¬ Quotes quoted value) ∧
      (∀ body, quoted.toList = '"' :: (body ++ ['"']) → body.any needsEscape = false →
        decodeBody body = some body ∧ unquote quoted = .ok (String.ofList body)) ∧
      ∀ letter count, (letter, count) ∈ hexEscapes → ∀ cs read code rest, read ≤ count →
        readCode hexDigit? 16 read 0 cs = some (code, rest) → code ≤ 0xffffffff ∧
          readCode hexDigit? 16 count 0 cs =
            readCode hexDigit? 16 (count - read) code rest := by
  refine ⟨fun value => unquote_eq_ok_iff, fun e => ⟨fun fails => ?_, ?_⟩, ?_, ?_⟩
  · refine ⟨unquote_eq_error fails, fun value quotes => ?_⟩
    cases fails.symm.trans (unquote_eq_ok_iff.mpr quotes)
  · rintro ⟨rfl, unquotable⟩
    cases unquotes : unquote quoted with
    | ok value => exact absurd (unquote_eq_ok_iff.mp unquotes) (unquotable value)
    | error e => rw [unquote_eq_error unquotes]
  · intro body is plain
    have decodes := decodeBody_of_plain plain
    refine ⟨decodes, ?_⟩
    rw [unquote_eq_decode (stripQuotes_eq_some_iff.mpr is), decodes]
  · intro letter count mem cs read code rest le reads
    have few : ∀ escape ∈ hexEscapes, escape.2 ≤ 8 := by decide
    have atMost : count ≤ 8 := few _ mem
    refine ⟨readCode_le_word (by omega) reads, ?_⟩
    have whole : count = read + (count - read) := by omega
    rw [whole, readCode_add, reads, Nat.add_sub_cancel_left]
    rfl

end RecordRules

import RecordRules.Proofs.Rule.Lexing
import RecordRules.Proofs.Text.Utf8

/-!
# The places a scan comes to

A scan goes through a text lexeme by lexeme and stops at the first that is none.  The places where
it looks for a lexeme (`Token.Reaches`) account for all its results: each token but the end is the
lexeme at one of them (`Token.exists_lexeme_of_mem`), and an error is that of the one place without
a lexeme (`Token.scanFrom_eq_error_iff`).
-/

namespace RecordRules

namespace Token

/-- A scan of a text from one position on comes to another one, where this text is left, which does
not start with a blank. -/
inductive Reaches : Nat → List Char → Nat → List Char → Prop
  | first {position : Nat} {cs : List Char} :
    Reaches position cs (position + byteLength (cs.takeWhile isBlank)) (dropBlanks cs)
  | later {position after start : Nat} {cs rest text : List Char} {t : Token} :
    next position cs = .ok (t, after, rest) → t.kind ≠ .ending → Reaches after rest start text →
    Reaches position cs start text

variable {position after start : Nat} {cs rest text : List Char} {c : Char} {t : Token}
  {ts : List Token} {e : SyntaxError}

/-! ## One token -/

/-- A token that is not the end is the lexeme after the blanks. -/
theorem exists_lexeme_of_next (taken : next position cs = .ok (t, after, rest))
    (more : t.kind ≠ .ending) : ∃ c text l, dropBlanks cs = c :: text ∧
      t.position = position + byteLength (cs.takeWhile isBlank) ∧
      lexeme t.position c text = .ok l ∧ l.kind = t.kind := by
  cases left : dropBlanks cs with
  | nil =>
    rw [next, left] at taken
    cases taken
    exact absurd rfl more
  | cons c text =>
    rw [next_of_dropBlanks left] at taken
    obtain ⟨l, read, same⟩ := map_eq_ok_iff.mp taken
    cases same
    exact ⟨c, text, l, rfl, rfl, read, rfl⟩

/-- There is no token where there is no lexeme after the blanks. -/
theorem next_eq_error_iff : next position cs = .error e ↔
    ∃ c rest, dropBlanks cs = c :: rest ∧
      lexeme (position + byteLength (cs.takeWhile isBlank)) c rest = .error e := by
  cases left : dropBlanks cs with
  | nil =>
    rw [next, left]
    simp
  | cons c text =>
    rw [next_of_dropBlanks left, map_eq_error_iff]
    constructor
    · exact fun none => ⟨c, text, rfl, none⟩
    · rintro ⟨_, _, ⟨⟩, none⟩
      exact none

/-- The position after a token is as many bytes further as the token takes with the blanks. -/
theorem exists_before_of_next (taken : next position cs = .ok (t, after, rest)) :
    ∃ before, cs = before ++ rest ∧ after = position + byteLength before := by
  have parts : cs.takeWhile isBlank ++ dropBlanks cs = cs := List.takeWhile_append_dropWhile
  cases left : dropBlanks cs with
  | nil =>
    rw [next, left] at taken
    cases taken
    rw [left] at parts
    exact ⟨_, parts.symm, rfl⟩
  | cons c text =>
    rw [next_of_dropBlanks left] at taken
    obtain ⟨l, -, same⟩ := map_eq_ok_iff.mp taken
    cases same
    refine ⟨cs.takeWhile isBlank ++ (c :: text).take l.length, ?_, ?_⟩
    · rw [List.append_assoc, List.take_append_drop, ← left, parts]
    · rw [byteLength_append, Nat.add_assoc]

/-! ## All tokens -/

/-- The place is as many bytes after the first one as the text before it takes. -/
theorem Reaches.exists_before (reaches : Reaches position cs start text) :
    ∃ before, cs = before ++ text ∧ start = position + byteLength before := by
  induction reaches with
  | first => exact ⟨_, (List.takeWhile_append_dropWhile).symm, rfl⟩
  | later taken _ _ ih =>
    obtain ⟨token, rfl, rfl⟩ := exists_before_of_next taken
    obtain ⟨before, rfl, rfl⟩ := ih
    exact ⟨token ++ before, by rw [List.append_assoc], by rw [byteLength_append, Nat.add_assoc]⟩

/-- Each token but the end is the lexeme at a place that the scan comes to. -/
theorem exists_lexeme_of_mem (scanned : scanFrom position cs = .ok ts) (mem : t ∈ ts)
    (more : t.kind ≠ .ending) : ∃ c text l, Reaches position cs t.position (c :: text) ∧
      lexeme t.position c text = .ok l ∧ l.kind = t.kind := by
  induction position, cs using scanFrom.induct generalizing ts with
  | case1 position cs e fails =>
    rw [scanFrom_of_error fails] at scanned
    cases scanned
  | case2 position cs first after rest taken ending =>
    rw [scanFrom_ending taken ending] at scanned
    cases scanned
    rw [List.mem_singleton.mp mem] at more
    exact absurd ending more
  | case3 position cs first after rest taken goes ih =>
    rw [scanFrom_of_next taken goes] at scanned
    obtain ⟨others, scanned', rfl⟩ := map_eq_ok_iff.mp scanned
    rcases List.mem_cons.mp mem with rfl | mem
    · obtain ⟨c, text, l, left, here, read, kind⟩ := exists_lexeme_of_next taken more
      refine ⟨c, text, l, ?_, read, kind⟩
      rw [here, ← left]
      exact .first
    · obtain ⟨c, text, l, reaches, read, kind⟩ := ih scanned' mem
      exact ⟨c, text, l, .later taken goes reaches, read, kind⟩

/-- A scan fails with the error of the place it comes to where there is no lexeme. -/
theorem scanFrom_eq_error_iff : scanFrom position cs = .error e ↔
    ∃ start c text, Reaches position cs start (c :: text) ∧ lexeme start c text = .error e := by
  constructor
  · intro fails
    induction position, cs using scanFrom.induct with
    | case1 position cs e' stops =>
      rw [scanFrom_of_error stops] at fails
      cases fails
      obtain ⟨c, rest, left, none⟩ := next_eq_error_iff.mp stops
      exact ⟨_, c, rest, left ▸ .first, none⟩
    | case2 position cs first after rest taken ending =>
      rw [scanFrom_ending taken ending] at fails
      cases fails
    | case3 position cs first after rest taken goes ih =>
      rw [scanFrom_of_next taken goes] at fails
      obtain ⟨start, c, text, reaches, none⟩ := ih (map_eq_error_iff.mp fails)
      exact ⟨start, c, text, .later taken goes reaches, none⟩
  · rintro ⟨start, c, text, reaches, none⟩
    generalize left : c :: text = rest at reaches
    induction reaches with
    | first => exact scanFrom_of_error (next_eq_error_iff.mpr ⟨c, text, left.symm, none⟩)
    | later taken goes _ ih =>
      rw [scanFrom_of_next taken goes, map_eq_error_iff]
      exact ih none left

/-- If all tokens are found, the lexeme at each such place is one of them. -/
theorem mem_of_reaches (scanned : scanFrom position cs = .ok ts)
    (reaches : Reaches position cs start (c :: text)) :
    ∃ l, lexeme start c text = .ok l ∧ ⟨l.kind, start⟩ ∈ ts := by
  cases read : lexeme start c text with
  | error e =>
    have fails := scanFrom_eq_error_iff.mpr ⟨start, c, text, reaches, read⟩
    cases scanned.symm.trans fails
  | ok l =>
    refine ⟨l, rfl, ?_⟩
    generalize left : c :: text = rest at reaches
    induction reaches generalizing ts with
    | first =>
      have taken := next_of_lexeme left.symm rfl read
      rw [scanFrom_of_next taken (lexeme_fits read).2] at scanned
      obtain ⟨others, -, rfl⟩ := map_eq_ok_iff.mp scanned
      exact List.mem_cons_self
    | later taken goes _ ih =>
      rw [scanFrom_of_next taken goes] at scanned
      obtain ⟨others, found, rfl⟩ := map_eq_ok_iff.mp scanned
      exact List.mem_cons_of_mem _ (ih found read left)

end Token

end RecordRules

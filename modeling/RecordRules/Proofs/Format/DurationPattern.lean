import Mathlib
import RecordRules.Pattern.Reader
import RecordRules.Proofs.Format.Duration
import RecordRules.Proofs.Pattern.Words
import RecordRules.Proofs.Text.Pieces

/-!
# The pattern of durations

Durations have a pattern, too.  A text is accepted as a duration exactly if the pattern occurs in it
(`occursIn_durationPattern`), and the pattern is what `durationSource` is read as
(`read_durationSource`).
-/

namespace RecordRules

open Pattern

/-! ## The pattern -/

/-- The two signs. -/
def signSet : CharSet :=
  ⟨[(43, 43), (45, 45)]⟩

/-- The pattern of an optional sign. -/
def signPattern : Pattern :=
  .repetition (.char signSet) 0 (some 1) true

/-- The pattern of a row of digits. -/
def rowPattern : Pattern :=
  .repetition (.char .digits) 1 none true

/-- The pattern of a number. -/
def numberPattern : Pattern :=
  .choice [
    .sequence [rowPattern, .repetition (.literal ['.']) 0 (some 1) true,
      .repetition (.char .digits) 0 none true],
    .sequence [.literal ['.'], rowPattern]]

/-- The pattern of a unit. -/
def unitPattern : Pattern :=
  .choice (durationUnits.map fun unit => .literal unit.toList)

/-- The pattern of a term. -/
def termPattern : Pattern :=
  .sequence [numberPattern, unitPattern]

/-- The parts of the pattern of a duration, between the start and the end of the text. -/
def durationParts : List Pattern :=
  [signPattern, .choice [.literal ['0'], .repetition termPattern 1 none true]]

/-- The pattern of a duration. -/
def durationPattern : Pattern :=
  whole durationParts

/-- How the pattern of a duration is written. -/
def durationSource : String :=
  "^[-+]?(?:0|(?:(?:\\d+\\.?\\d*|\\.\\d+)(?:ns|us|µs|μs|ms|s|m|h))+)$"

set_option maxRecDepth 20000 in
theorem branches_durationSource :
    ((branches (4 * durationSource.toList.length + 8)).run { rest := durationSource.toList }).map
      (fun (found, after) => ((ofBranches found).pattern, (ofBranches found).depth, after.rest)) =
      some (durationPattern, 10, []) := by
  cbv

/-- The text is read as the pattern, unless that is found to be too large. -/
theorem read_durationSource : Pattern.read durationSource =
    if durationPattern.fits then .ok durationPattern else .error .tooLarge := by
  obtain ⟨⟨found, after⟩, run, result⟩ := Option.map_eq_some_iff.mp branches_durationSource
  obtain ⟨pattern, depth, rest⟩ : (ofBranches found).pattern = durationPattern ∧
      (ofBranches found).depth = 10 ∧ after.rest = [] := by simpa using result
  rw [Pattern.read]
  dsimp only
  rw [run]
  dsimp only
  rw [pattern, depth, rest]
  cases durationPattern.fits <;> rfl

/-! ## Its words -/

variable {cs : List Char}

theorem contains_digits (c : Char) : CharSet.digits.contains c = isDurationDigit c := by
  have ascii : ∀ code < 0x80, CharSet.digits.contains (Char.ofNat code) =
      (Char.ofNat code).isDigit := by decide +kernel
  rw [isDurationDigit]
  by_cases high : 0x80 ≤ c.toNat
  · have other : c.isDigit = false := by
      refine Bool.eq_false_iff.mpr fun digit => ?_
      have low := of_isDigit (p := fun c => c.toNat < 0x80) (by decide) digit
      omega
    rw [other, decide_eq_true high, Bool.true_and, Bool.false_or]
  · have here := ascii c.toNat (by omega)
    rw [Char.ofNat_toNat] at here
    rw [here, decide_eq_false high, Bool.false_and, Bool.or_false]

theorem yields_row_iff : Yields rowPattern cs ↔ IsRow isDurationDigit cs := by
  rw [rowPattern, yields_repeated_char_iff]
  simp only [contains_digits]
  constructor
  · rintro ⟨enough, digits⟩
    exact ⟨List.length_pos_iff.mp enough, digits⟩
  · rintro ⟨some, digits⟩
    exact ⟨List.length_pos_iff.mpr some, digits⟩

theorem yields_more_digits_iff : Yields (.repetition (.char .digits) 0 none true) cs ↔
    ∀ c ∈ cs, isDurationDigit c = true := by
  rw [yields_repeated_char_iff, and_iff_right (Nat.zero_le _)]
  simp only [contains_digits]

theorem yields_number_iff : Yields numberPattern cs ↔ IsNumber isDurationDigit cs := by
  constructor
  · rintro (⟨whole, _, row, ⟨point, _, optional, ⟨fraction, _, more, rfl, rfl⟩, rfl⟩, rfl⟩ |
      ⟨_, _, rfl, ⟨digits, _, row, rfl, rfl⟩, rfl⟩ | none)
    · have row := yields_row_iff.mp row
      have more := yields_more_digits_iff.mp more
      rw [List.append_nil]
      rcases yields_optional_iff.mp optional with rfl | rfl
      · exact .whole ⟨List.append_ne_nil_of_left_ne_nil row.some _,
          List.forall_mem_append.mpr ⟨row.digits, more⟩⟩
      · exact .pointed row more
    · rw [List.append_nil]
      exact .fraction (yields_row_iff.mp row)
    · exact none.elim
  · intro number
    cases number with
    | whole row =>
      exact .inl ⟨cs, [], yields_row_iff.mpr row, ⟨[], [], yields_optional_iff.mpr (.inl rfl),
        ⟨[], [], yields_more_digits_iff.mpr nofun, rfl, rfl⟩, rfl⟩, (List.append_nil cs).symm⟩
    | @pointed digits fraction row fractions =>
      exact .inl ⟨digits, _, yields_row_iff.mpr row, ⟨['.'], _, yields_optional_iff.mpr (.inr rfl),
        ⟨fraction, [], yields_more_digits_iff.mpr fractions, rfl, rfl⟩, rfl⟩, by simp⟩
    | @fraction digits row =>
      exact .inr (.inl ⟨['.'], _, rfl, ⟨digits, [], yields_row_iff.mpr row, rfl, rfl⟩, by simp⟩)

theorem yields_unit_iff : Yields unitPattern cs ↔ ∃ unit ∈ durationUnits, cs = unit.toList := by
  refine yieldsOne_iff.trans ?_
  constructor
  · rintro ⟨_, mem, word⟩
    obtain ⟨unit, known, rfl⟩ := List.mem_map.mp mem
    exact ⟨unit, known, word⟩
  · rintro ⟨unit, known, is⟩
    exact ⟨.literal unit.toList, List.mem_map_of_mem known, is⟩

theorem yields_term_iff : Yields termPattern cs ↔
    ∃ number, ∃ unit ∈ durationUnits, IsNumber isDurationDigit number ∧
      cs = number ++ unit.toList := by
  constructor
  · rintro ⟨number, _, word, ⟨_, _, word', rfl, rfl⟩, rfl⟩
    obtain ⟨unit, known, rfl⟩ := yields_unit_iff.mp word'
    exact ⟨number, unit, known, yields_number_iff.mp word, by rw [List.append_nil]⟩
  · rintro ⟨number, unit, known, is, rfl⟩
    exact ⟨number, _, yields_number_iff.mpr is,
      ⟨unit.toList, [], yields_unit_iff.mpr ⟨unit, known, rfl⟩, rfl, rfl⟩, by rw [List.append_nil]⟩

theorem yields_terms_iff : Yields (.repetition termPattern 1 none true) cs ↔
    AreTerms isDurationDigit cs := by
  rw [yields_unbounded_iff]
  constructor
  · rintro ⟨words, enough, all, rfl⟩
    induction words with
    | nil => cases enough
    | cons w words ih =>
      obtain ⟨first, others⟩ := List.forall_mem_cons.mp all
      obtain ⟨number, unit, known, is, rfl⟩ := yields_term_iff.mp first
      rw [List.flatten_cons]
      cases words with
      | nil =>
        rw [List.flatten_nil, List.append_nil]
        exact .single is known
      | cons w' words =>
        rw [List.append_assoc]
        exact .more is known (ih (by simp) others)
  · intro terms
    induction terms with
    | @single number unit is known =>
      have word := yields_term_iff.mpr ⟨number, unit, known, is, rfl⟩
      exact ⟨[number ++ unit.toList], Nat.le_refl 1, List.forall_mem_singleton.mpr word, by simp⟩
    | @more number rest unit is known _ ih =>
      obtain ⟨words, -, all, rfl⟩ := ih
      have word := yields_term_iff.mpr ⟨number, unit, known, is, rfl⟩
      exact ⟨(number ++ unit.toList) :: words, by simp, List.forall_mem_cons.mpr ⟨word, all⟩,
        by simp⟩

theorem contains_signSet {c : Char} : signSet.contains c = true ↔ c = '-' ∨ c = '+' := by
  have codes : signSet.contains c = true ↔ c.toNat = 43 ∨ c.toNat = 45 := by
    simp [signSet, CharSet.contains, CodeRanges.Covers]
    omega
  rw [codes, ← Char.toNat_inj, ← Char.toNat_inj]
  exact or_comm

theorem yields_sign_iff : Yields signPattern cs ↔ cs = [] ∨ cs = ['-'] ∨ cs = ['+'] := by
  rw [signPattern, yields_optional_iff]
  refine or_congr_right ?_
  constructor
  · rintro ⟨c, within, rfl⟩
    exact (contains_signSet.mp within).imp (congrArg ([·])) (congrArg ([·]))
  · rintro (rfl | rfl)
    · exact ⟨'-', rfl, rfl⟩
    · exact ⟨'+', rfl, rfl⟩

theorem yields_duration_iff :
    YieldsInSequence durationParts cs ↔ IsDurationIn isDurationDigit cs := by
  constructor
  · rintro ⟨sign, _, isSign, ⟨body, _, isBody, rfl, rfl⟩, rfl⟩
    refine ⟨sign, body, yields_sign_iff.mp isSign, ?_, by rw [List.append_nil]⟩
    rcases isBody with rfl | terms | none
    · exact .inl rfl
    · exact .inr (yields_terms_iff.mp terms)
    · exact none.elim
  · rintro ⟨sign, body, isSign, isBody, rfl⟩
    refine ⟨sign, _, yields_sign_iff.mpr isSign, ⟨body, [], ?_, rfl, rfl⟩, by rw [List.append_nil]⟩
    exact isBody.imp id fun terms => .inl (yields_terms_iff.mpr terms)

/-- A text is a duration exactly if the pattern occurs in it. -/
theorem occursIn_durationPattern (text : String) :
    durationPattern.occursIn text = isDuration text.toList := by
  rw [Bool.eq_iff_iff, isDuration_iff, durationPattern, occursIn_whole_iff (by decide),
    yields_duration_iff]

end RecordRules

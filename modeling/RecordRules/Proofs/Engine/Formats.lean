import RecordRules.Proofs.Engine.Calling
import RecordRules.Proofs.Format.Block
import RecordRules.Proofs.Format.DurationPattern

/-!
# Text formats

The name of a format is a rule.  An engine with the standard functions accepts a text by it exactly
if the text has the format (`accepts_format`), whatever the engine has been asked before.  What the
formats of address blocks and of durations are is said here once more without the functions that
decide it.
-/

namespace RecordRules

/-! ## Rules that are formats -/

theorem isName_format (format : TextFormat) : IsName format.name := by
  cases format <;> decide

theorem standard_format (format : TextFormat) :
    Rulebook.standard.functions.get? format.name = some (.ofFormat format) := by
  cases format <;> rfl

theorem meaning_format (config : Config) (format : TextFormat) :
    (Setup.standard config).reading.meaning format.name = .ok (.check (.hasFormat format)) := by
  have known : (Setup.standard config).book.functions.get? format.name = some (.ofFormat format) :=
    standard_format format
  rw [meaning_of_name (isName_format format), Rulebook.named, known]
  rfl

theorem test_hasFormat (format : TextFormat) (root : Option Value) {v : Value} {text : String}
    (is : v.string? = some text) :
    (Check.hasFormat format).test root v = .ok () ↔ format.accepts text = true := by
  rw [Check.test, Check.testText, is]
  dsimp only
  split
  · next has => exact iff_of_true rfl has
  · next other => exact iff_of_false nofun other

section formats

variable (config : Config) (requests : List Request) {v : Value} {text : String}

/-- A text is accepted by the name of a format exactly if it has the format. -/
theorem accepts_format (format : TextFormat) (is : v.string? = some text) :
    (Workspace.afterRequests config requests).Accepts v format.name ↔
      format.accepts text = true :=
  (accepts_check (faithful_afterRequests config requests) (meaning_format config format) v).trans
    (test_hasFormat format _ is)

/-! ## Blocks of addresses -/

theorem accepts_cidr (is : v.string? = some text) :
    (Workspace.afterRequests config requests).Accepts v "cidr" ↔
      isAddressBlock text.toList = true :=
  accepts_format config requests .cidr is

/-- A text is accepted as a block exactly if it is an address, a slash and a number in decimal
digits that is at most the number of bits of the address, which perhaps has a plus in front.  The
blocks as they are meant, without a sign, are those that have no plus at all.  An address has one
number of bits only.

This is so for all texts, behind pointers and in documents, too, and whatever the engine has been
asked before. -/
theorem accepts_blocks (is : v.string? = some text) :
    let w := Workspace.afterRequests config requests
    (w.Accepts v "cidr" ↔ IsBlock [] text.toList ∨ IsBlock ['+'] text.toList) ∧
      (IsBlock [] text.toList ↔ w.Accepts v "cidr" ∧ '+' ∉ text.toList) ∧
      ∀ address m n, HasWidth address m → HasWidth address n → m = n := by
  intro w
  have accepted := accepts_cidr config requests is
  exact ⟨accepted.trans isAddressBlock_iff, isBlock_iff.trans (and_congr_left' accepted.symm),
    fun _ _ _ => HasWidth.unique⟩

end formats

/-- The block has an address of the sixth version that ends like one of the fourth, and zeros in
front of its number. -/
theorem accepts_block_of_document :
    let v : Value := .boxed (.json (.string "fe80::a:1.2.3.4/0128"))
    v.string? = some "fe80::a:1.2.3.4/0128" ∧
      (Workspace.afterRequests {} [.build "cidr"]).Accepts v "cidr" := by
  intro v
  have is : v.string? = some "fe80::a:1.2.3.4/0128" := rfl
  obtain ⟨accepts, -, -⟩ := accepts_blocks {} [.build "cidr"] is
  refine ⟨is, accepts.mpr (.inl ⟨"fe80::a:1.2.3.4".toList, 128, "0128".toList, ?_⟩)⟩
  exact ⟨.v6 (by decide), ⟨by decide, List.all_eq_true.mp (by decide)⟩, by decide, by decide⟩

/-- A plus in front of the number of bits is accepted, although no block has one. -/
theorem signed_block_accepted :
    let v : Value := .text "10.0.0.0/+8"
    v.string? = some "10.0.0.0/+8" ∧ ¬ IsBlock [] "10.0.0.0/+8".toList ∧
      (Workspace.afterRequests {} []).Accepts v "cidr" := by
  intro v
  have is : v.string? = some "10.0.0.0/+8" := rfl
  refine ⟨is, fun block => block.not_mem_plus (by decide), ?_⟩
  rw [accepts_cidr {} [] is]
  decide

/-! ## Durations -/

section durations

variable (config : Config) (requests : List Request) {v : Value} {text : String}

theorem accepts_duration (is : v.string? = some text) :
    (Workspace.afterRequests config requests).Accepts v "duration" ↔
      isDuration text.toList = true :=
  accepts_format config requests .duration is

/-- A text is accepted as a duration exactly if it is one with decimal digits of any scripts, which
is to say that the pattern of durations occurs in it.  Those with ASCII digits are what is accepted
and has no other decimal digits.

This is so for all texts, behind pointers and in documents, too, and whatever the engine has been
asked before. -/
theorem accepts_durations (is : v.string? = some text) :
    let w := Workspace.afterRequests config requests
    (w.Accepts v "duration" ↔ IsDurationIn CharSet.digits.contains text.toList) ∧
      (w.Accepts v "duration" ↔ durationPattern.occursIn text = true) ∧
      (IsDurationIn Char.isDigit text.toList ↔ w.Accepts v "duration" ∧
        ∀ c ∈ text.toList, CharSet.digits.contains c = true → c.isDigit = true) := by
  intro w
  have accepted := accepts_duration config requests is
  rw [occursIn_durationPattern, funext contains_digits]
  exact ⟨accepted.trans isDuration_iff, accepted,
    isDuration_ascii_iff.trans (and_congr_left' accepted.symm)⟩

end durations

/-- A duration of three terms, whose numbers are a row of digits, a point with a digit after it and
digits with a point among them, in an option. -/
theorem accepts_duration_of_option :
    let v : Value := .present ⟨.text, []⟩ (.text "-1h.5µs20.25m")
    v.string? = some "-1h.5µs20.25m" ∧
      (Workspace.afterRequests {} [.build "duration"]).Accepts v "duration" := by
  intro v
  have is : v.string? = some "-1h.5µs20.25m" := rfl
  have hours : IsNumber Char.isDigit ['1'] :=
    .whole ⟨by decide, List.all_eq_true.mp (by decide)⟩
  have microseconds : IsNumber Char.isDigit ['.', '5'] :=
    .fraction ⟨by decide, List.all_eq_true.mp (by decide)⟩
  have minutes : IsNumber Char.isDigit (['2', '0'] ++ '.' :: ['2', '5']) :=
    .pointed ⟨by decide, List.all_eq_true.mp (by decide)⟩ (List.all_eq_true.mp (by decide))
  have known : ∀ unit ∈ ["h", "µs", "m"], unit ∈ durationUnits := by decide
  have terms := AreTerms.more hours (known "h" (by decide))
    (.more microseconds (known "µs" (by decide)) (.single minutes (known "m" (by decide))))
  obtain ⟨-, -, ascii⟩ := accepts_durations {} [.build "duration"] is
  exact ⟨is, (ascii.mp ⟨['-'], _, .inr (.inl rfl), .inr terms, by decide⟩).1⟩

/-- Digits of other scripts are accepted. -/
theorem foreign_duration_accepted :
    let v : Value := .text "٣s"
    v.string? = some "٣s" ∧ ¬ IsDurationIn Char.isDigit "٣s".toList ∧
      (Workspace.afterRequests {} []).Accepts v "duration" := by
  intro v
  have is : v.string? = some "٣s" := rfl
  refine ⟨is, fun duration => ?_, (accepts_duration {} [] is).mpr (by decide)⟩
  have ascii := (isDuration_ascii_iff.mp duration).2 '٣' (by decide) (by decide)
  exact absurd ascii (by decide)

end RecordRules

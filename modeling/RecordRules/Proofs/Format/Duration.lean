import RecordRules.Format.Duration
import RecordRules.Proofs.Text.Pieces

/-!
# Durations

The grammar of durations, for any notion of a digit: an optional sign and either a single zero or
one term or more, a term being a number and a unit.  What is accepted is the grammar with the digits
of all scripts (`isDuration_iff`), so the durations with ASCII digits are what is accepted and has
no other ones (`isDuration_ascii_iff`).
-/

namespace RecordRules

/-! ## The grammar -/

/-- A row of digits, at least one. -/
structure IsRow (digit : Char → Bool) (cs : List Char) : Prop where
  some : cs ≠ []
  digits : ∀ c ∈ cs, digit c = true

/-- A number: digits, digits with a point after or among them, or a point with digits after it. -/
inductive IsNumber (digit : Char → Bool) : List Char → Prop
  | whole {digits : List Char} : IsRow digit digits → IsNumber digit digits
  | pointed {digits fraction : List Char} : IsRow digit digits →
    (∀ c ∈ fraction, digit c = true) → IsNumber digit (digits ++ '.' :: fraction)
  | fraction {digits : List Char} : IsRow digit digits → IsNumber digit ('.' :: digits)

/-- One term or more, each of a number and a unit. -/
inductive AreTerms (digit : Char → Bool) : List Char → Prop
  | single {number : List Char} {unit : String} : IsNumber digit number → unit ∈ durationUnits →
    AreTerms digit (number ++ unit.toList)
  | more {number rest : List Char} {unit : String} : IsNumber digit number → unit ∈ durationUnits →
    AreTerms digit rest → AreTerms digit (number ++ (unit.toList ++ rest))

/-- A duration with digits of some kind. -/
def IsDurationIn (digit : Char → Bool) (cs : List Char) : Prop :=
  ∃ sign body, (sign = [] ∨ sign = ['-'] ∨ sign = ['+']) ∧ (body = ['0'] ∨ AreTerms digit body) ∧
    cs = sign ++ body

section grammar

variable {digit digit' : Char → Bool} {cs : List Char}

theorem IsRow.imp (row : IsRow digit cs) (all : ∀ c ∈ cs, digit c = true → digit' c = true) :
    IsRow digit' cs :=
  ⟨row.some, fun c mem => all c mem (row.digits c mem)⟩

theorem IsNumber.imp (number : IsNumber digit cs)
    (all : ∀ c ∈ cs, digit c = true → digit' c = true) : IsNumber digit' cs := by
  cases number with
  | whole row => exact .whole (row.imp all)
  | pointed row fraction =>
    rw [List.forall_mem_append, List.forall_mem_cons] at all
    exact .pointed (row.imp all.1) fun c mem => all.2.2 c mem (fraction c mem)
  | fraction row => exact .fraction (row.imp (List.forall_mem_cons.mp all).2)

theorem AreTerms.imp (terms : AreTerms digit cs)
    (all : ∀ c ∈ cs, digit c = true → digit' c = true) : AreTerms digit' cs := by
  induction terms with
  | single number unit =>
    exact .single (number.imp (List.forall_mem_append.mp all).1) unit
  | more number unit _ ih =>
    rw [List.forall_mem_append, List.forall_mem_append] at all
    exact .more (number.imp all.1) unit (ih all.2.2)

/-- Whether the digits are of one kind or of another makes no difference where they are of both. -/
theorem IsDurationIn.imp (duration : IsDurationIn digit cs)
    (all : ∀ c ∈ cs, digit c = true → digit' c = true) : IsDurationIn digit' cs := by
  obtain ⟨sign, body, isSign, zero | terms, rfl⟩ := duration
  · exact ⟨sign, body, isSign, .inl zero, rfl⟩
  · exact ⟨sign, body, isSign, .inr (terms.imp (List.forall_mem_append.mp all).2), rfl⟩

theorem IsNumber.digit_or_point (number : IsNumber digit cs) :
    ∀ c ∈ cs, digit c = true ∨ c = '.' := by
  cases number with
  | whole row => exact fun c mem => .inl (row.digits c mem)
  | pointed row fraction =>
    exact List.forall_mem_append.mpr ⟨fun c mem => .inl (row.digits c mem),
      List.forall_mem_cons.mpr ⟨.inr rfl, fun c mem => .inl (fraction c mem)⟩⟩
  | fraction row =>
    exact List.forall_mem_cons.mpr ⟨.inr rfl, fun c mem => .inl (row.digits c mem)⟩

/-- The characters besides digits that durations are made of. -/
def durationMarks : List Char :=
  '-' :: '+' :: '0' :: '.' :: durationUnits.flatMap String.toList

theorem mem_durationMarks {unit : String} (known : unit ∈ durationUnits) {c : Char}
    (mem : c ∈ unit.toList) : c ∈ durationMarks := by
  have here := List.mem_flatMap_of_mem known mem
  exact List.mem_cons_of_mem _ (List.mem_cons_of_mem _ (List.mem_cons_of_mem _
    (List.mem_cons_of_mem _ here)))

theorem IsNumber.digit_or_mark (number : IsNumber digit cs) :
    ∀ c ∈ cs, digit c = true ∨ c ∈ durationMarks := fun c mem =>
  (number.digit_or_point c mem).imp_right fun point => by rw [point]; decide

theorem AreTerms.digit_or_mark (terms : AreTerms digit cs) :
    ∀ c ∈ cs, digit c = true ∨ c ∈ durationMarks := by
  induction terms with
  | single number unit =>
    exact List.forall_mem_append.mpr
      ⟨number.digit_or_mark, fun c mem => .inr (mem_durationMarks unit mem)⟩
  | more number unit _ ih =>
    exact List.forall_mem_append.mpr ⟨number.digit_or_mark,
      List.forall_mem_append.mpr ⟨fun c mem => .inr (mem_durationMarks unit mem), ih⟩⟩

theorem IsDurationIn.digit_or_mark (duration : IsDurationIn digit cs) :
    ∀ c ∈ cs, digit c = true ∨ c ∈ durationMarks := by
  obtain ⟨sign, body, isSign, isBody, rfl⟩ := duration
  refine List.forall_mem_append.mpr ⟨fun c mem => .inr ?_, ?_⟩
  · rcases isSign with rfl | rfl | rfl
    · cases mem
    · rw [List.mem_singleton.mp mem]
      decide
    · rw [List.mem_singleton.mp mem]
      decide
  · rcases isBody with rfl | terms
    · exact fun c mem => .inr (by rw [List.mem_singleton.mp mem]; decide)
    · exact terms.digit_or_mark

end grammar

/-! ## Numbers and units at the front -/

/-- The marks besides the zero are no digits. -/
theorem isDigit_of_mark {c : Char} (mark : c ∈ durationMarks) (digit : isDurationDigit c = true) :
    c.isDigit = true := by
  have marks : ∀ c ∈ durationMarks, (!isDurationDigit c || c.isDigit) = true :=
    List.all_eq_true.mp (by decide)
  simpa [digit] using marks c mark

theorem isDurationDigit_of_isDigit {c : Char} (digit : c.isDigit = true) :
    isDurationDigit c = true := by
  rw [isDurationDigit, digit, Bool.true_or]

/-- The text starts with a digit or a point, as numbers do. -/
def StartsNumber (cs : List Char) : Prop :=
  ∃ c rest, cs = c :: rest ∧ (isDurationDigit c = true ∨ c = '.')

theorem IsNumber.starts {number : List Char} (is : IsNumber isDurationDigit number)
    (rest : List Char) : StartsNumber (number ++ rest) := by
  cases is with
  | whole row =>
    obtain ⟨c, cs, rfl⟩ := List.exists_cons_of_ne_nil row.some
    exact ⟨c, cs ++ rest, rfl, .inl (row.digits c List.mem_cons_self)⟩
  | pointed row _ =>
    obtain ⟨c, cs, rfl⟩ := List.exists_cons_of_ne_nil row.some
    exact ⟨c, _, rfl, .inl (row.digits c List.mem_cons_self)⟩
  | fraction _ => exact ⟨'.', _, rfl, .inr rfl⟩

theorem AreTerms.starts {cs : List Char} (terms : AreTerms isDurationDigit cs) :
    StartsNumber cs := by
  cases terms with
  | single number _ => exact number.starts _
  | more number _ _ => exact number.starts _

theorem ends_of_not_startsNumber {cs : List Char} (ends : ¬ StartsNumber cs) :
    ∀ c ∈ cs.head?, isDurationDigit c = false := by
  intro c head
  obtain ⟨rest, rfl⟩ := List.head?_eq_some_iff.mp head
  rw [← Bool.not_eq_true]
  exact fun digit => ends ⟨c, rest, rfl, .inl digit⟩

theorem point_not_digit : isDurationDigit '.' = false := by decide

/-- A number reaches as far as there are digits. -/
theorem afterNumber_append {number rest : List Char} (is : IsNumber isDurationDigit number)
    (ends : ¬ StartsNumber rest) : afterNumber (number ++ rest) = some rest := by
  have stops := ends_of_not_startsNumber ends
  rw [afterNumber]
  cases is with
  | whole row =>
    obtain ⟨taken, dropped⟩ := span_append row.digits stops
    rw [taken, dropped, List.isEmpty_eq_false_iff.mpr row.some]
    split
    · next back => exact (ends ⟨'.', back, rfl, .inr rfl⟩).elim
    · rfl
  | @pointed digits fraction row fractions =>
    have point : ∀ c ∈ ('.' :: (fraction ++ rest)).head?, isDurationDigit c = false := by
      rintro _ ⟨⟩
      exact point_not_digit
    obtain ⟨taken, dropped⟩ := span_append row.digits point
    rw [List.append_assoc, List.cons_append, taken, dropped, List.isEmpty_eq_false_iff.mpr row.some]
    exact congrArg some (span_append fractions stops).2
  | @fraction digits row =>
    have point := Bool.eq_false_iff.mp point_not_digit
    obtain ⟨taken, dropped⟩ := span_append row.digits stops
    rw [List.cons_append, List.takeWhile_cons_of_neg point, List.dropWhile_cons_of_neg point]
    change (if [].isEmpty && _ then _ else _) = _
    rw [taken, dropped, List.isEmpty_eq_false_iff.mpr row.some]
    rfl

/-- What is taken for a number is one. -/
theorem exists_number {cs rest : List Char} (after : afterNumber cs = some rest) :
    ∃ number, IsNumber isDurationDigit number ∧ cs = number ++ rest := by
  have whole := List.takeWhile_append_dropWhile (p := isDurationDigit) (l := cs)
  have digits : ∀ c ∈ cs.takeWhile isDurationDigit, isDurationDigit c = true := fun c mem =>
    of_mem_takeWhile mem
  rw [afterNumber] at after
  generalize cs.takeWhile isDurationDigit = front at whole digits after
  split at after
  · next back is =>
    have parts := List.takeWhile_append_dropWhile (p := isDurationDigit) (l := back)
    have fraction : ∀ c ∈ back.takeWhile isDurationDigit, isDurationDigit c = true := fun c mem =>
      of_mem_takeWhile mem
    generalize back.takeWhile isDurationDigit = digits' at parts fraction after
    split at after
    · cases after
    · next nonempty =>
      cases after
      rw [is, ← parts] at whole
      by_cases none : front = []
      · subst none
        have some : digits' ≠ [] := by simpa using nonempty
        exact ⟨'.' :: digits', .fraction ⟨some, fraction⟩, whole.symm⟩
      · exact ⟨front ++ '.' :: digits', .pointed ⟨none, digits⟩ fraction, by simp [← whole]⟩
  · split at after
    · cases after
    · next nonempty =>
      cases after
      have some : front ≠ [] := by simpa using nonempty
      exact ⟨front, .whole ⟨some, digits⟩, whole.symm⟩

/-- Of the units only `m` is one that another one starts with, and that one goes on with `s`. -/
theorem find_unit {unit : String} (known : unit ∈ durationUnits) {rest : List Char}
    (no_second : ['s'].isPrefixOf rest = false) :
    durationUnits.find? (fun u => u.toList.isPrefixOf (unit.toList ++ rest)) = some unit := by
  simp only [durationUnits, List.mem_cons, List.not_mem_nil, or_false] at known
  rcases known with rfl | rfl | rfl | rfl | rfl | rfl | rfl | rfl
  case inr.inr.inr.inr.inr.inr.inl =>
    simp [durationUnits, List.isPrefixOf, no_second]
  all_goals rfl

/-- A unit reaches as far as it can, if it is followed by a term or by nothing. -/
theorem afterUnit_append {unit : String} (known : unit ∈ durationUnits) {rest : List Char}
    (follows : rest = [] ∨ StartsNumber rest) : afterUnit (unit.toList ++ rest) = some rest := by
  have no_second : ['s'].isPrefixOf rest = false := by
    rcases follows with rfl | ⟨c, rest, rfl, digit | rfl⟩
    · rfl
    · have other : c ≠ 's' := by
        rintro rfl
        exact absurd digit (by decide)
      simp [List.isPrefixOf, other.symm]
    · rfl
  rw [afterUnit, find_unit known no_second, Option.map_some, ← String.length_toList, List.drop_left]

theorem exists_unit {cs rest : List Char} (after : afterUnit cs = some rest) :
    ∃ unit ∈ durationUnits, cs = unit.toList ++ rest := by
  obtain ⟨unit, found, rfl⟩ := Option.map_eq_some_iff.mp after
  have starts : unit.toList.isPrefixOf cs = true :=
    List.find?_some (p := fun u : String => u.toList.isPrefixOf cs) found
  obtain ⟨back, rfl⟩ := List.isPrefixOf_iff_prefix.mp starts
  refine ⟨unit, List.mem_of_find?_eq_some found, ?_⟩
  rw [← String.length_toList, List.drop_left]

/-! ## Terms -/

theorem exists_term {cs rest : List Char} (after : afterTerm cs = some rest) :
    ∃ number, ∃ unit ∈ durationUnits, IsNumber isDurationDigit number ∧
      cs = number ++ (unit.toList ++ rest) := by
  obtain ⟨back, afterNumber, afterUnit⟩ := Option.bind_eq_some_iff.mp after
  obtain ⟨number, is, rfl⟩ := exists_number afterNumber
  obtain ⟨unit, known, rfl⟩ := exists_unit afterUnit
  exact ⟨number, unit, known, is, rfl⟩

/-- A unit does not go on with digits. -/
theorem not_startsNumber_of_unit {unit : String} (known : unit ∈ durationUnits) (rest : List Char) :
    ¬ StartsNumber (unit.toList ++ rest) := by
  have starts : ∀ u ∈ durationUnits,
      u.toList.head?.any (fun c => !isDurationDigit c && c != '.') = true := by decide
  have starts := starts unit known
  rintro ⟨c, cs, is, goes⟩
  cases letters : unit.toList with
  | nil =>
    rw [letters] at starts
    cases starts
  | cons d ds =>
    rw [letters] at starts is
    cases is
    rcases goes with digit | point
    · simp [digit] at starts
    · simp [point] at starts

theorem afterTerm_append {number rest : List Char} {unit : String}
    (is : IsNumber isDurationDigit number) (known : unit ∈ durationUnits)
    (follows : rest = [] ∨ StartsNumber rest) :
    afterTerm (number ++ (unit.toList ++ rest)) = some rest := by
  rw [afterTerm, afterNumber_append is (not_startsNumber_of_unit known rest), Option.bind_some,
    afterUnit_append known follows]

theorem areTerms_of_isTermRow {n : Nat} {cs : List Char} (row : isTermRow n cs = true) :
    AreTerms isDurationDigit cs := by
  induction n generalizing cs with
  | zero => cases row
  | succ n ih =>
    rw [isTermRow] at row
    split at row
    · next rest after =>
      obtain ⟨number, unit, known, is, rfl⟩ := exists_term after
      rw [Bool.or_eq_true, List.isEmpty_iff] at row
      rcases row with rfl | row
      · rw [List.append_nil]
        exact .single is known
      · exact .more is known (ih row)
    · cases row

theorem unit_positive : ∀ unit ∈ durationUnits, 0 < unit.toList.length := by decide

/-- There are at most as many terms as characters. -/
theorem isTermRow_of_areTerms {cs : List Char} (terms : AreTerms isDurationDigit cs) {n : Nat}
    (enough : cs.length ≤ n) : isTermRow n cs = true := by
  induction terms generalizing n with
  | @single number unit is known =>
    have positive := unit_positive unit known
    rw [List.length_append] at enough
    obtain ⟨m, rfl⟩ : ∃ m, n = m + 1 := ⟨n - 1, by omega⟩
    have after := afterTerm_append is known (.inl rfl)
    rw [List.append_nil] at after
    rw [isTermRow, after]
    rfl
  | @more number rest unit is known others ih =>
    have positive := unit_positive unit known
    rw [List.length_append, List.length_append] at enough
    obtain ⟨m, rfl⟩ : ∃ m, n = m + 1 := ⟨n - 1, by omega⟩
    rw [isTermRow, afterTerm_append is known (.inr others.starts)]
    dsimp only
    rw [ih (by omega), Bool.or_true]

/-! ## Durations -/

theorem withoutSign_append {sign body : List Char}
    (isSign : sign = [] ∨ sign = ['-'] ∨ sign = ['+']) (starts : StartsNumber body) :
    withoutSign (sign ++ body) = body := by
  rcases isSign with rfl | rfl | rfl
  · obtain ⟨c, rest, rfl, digit⟩ := starts
    rw [List.nil_append, withoutSign.eq_def]
    split
    · next is =>
      cases is
      exact absurd digit (by decide)
    · next is =>
      cases is
      exact absurd digit (by decide)
    · rfl
  · rfl
  · rfl

theorem exists_sign (cs : List Char) :
    ∃ sign, (sign = [] ∨ sign = ['-'] ∨ sign = ['+']) ∧ cs = sign ++ withoutSign cs := by
  unfold withoutSign
  split
  · exact ⟨['-'], .inr (.inl rfl), rfl⟩
  · exact ⟨['+'], .inr (.inr rfl), rfl⟩
  · exact ⟨[], .inl rfl, rfl⟩

/-- The durations with digits of all scripts are accepted, and nothing else. -/
theorem isDuration_iff {cs : List Char} :
    isDuration cs = true ↔ IsDurationIn isDurationDigit cs := by
  rw [isDuration, Bool.or_eq_true, decide_eq_true_eq]
  constructor
  · intro accepted
    obtain ⟨sign, isSign, whole⟩ := exists_sign cs
    exact ⟨sign, withoutSign cs, isSign, accepted.imp_right areTerms_of_isTermRow, whole⟩
  · rintro ⟨sign, body, isSign, isBody, rfl⟩
    have starts : StartsNumber body := by
      rcases isBody with rfl | terms
      · exact ⟨'0', [], rfl, .inl (by decide)⟩
      · exact terms.starts
    rw [withoutSign_append isSign starts]
    exact isBody.imp_right fun terms => isTermRow_of_areTerms terms (Nat.le_refl _)

/-- The durations with ASCII digits are what is accepted and has no other digits. -/
theorem isDuration_ascii_iff {cs : List Char} :
    IsDurationIn Char.isDigit cs ↔
      isDuration cs = true ∧ ∀ c ∈ cs, isDurationDigit c = true → c.isDigit = true := by
  rw [isDuration_iff]
  constructor
  · intro duration
    refine ⟨duration.imp fun c _ => isDurationDigit_of_isDigit, fun c mem digit => ?_⟩
    rcases duration.digit_or_mark c mem with ascii | mark
    · exact ascii
    · exact isDigit_of_mark mark digit
  · rintro ⟨duration, ascii⟩
    exact duration.imp ascii

end RecordRules

import RecordRules.Proofs.Pattern.Matching

/-!
# The words of a pattern

A pattern without conditions on positions matches its words (`Pattern.Yields`), wherever they stand
in a text (`matches_iff_yields`).  If the start and the end of the text are required around it, a
text has to be one of its words as a whole (`occursIn_whole_iff`).
-/

namespace RecordRules

namespace Pattern

mutual

/-- The text is a word of the pattern, which is what it matches if it has no conditions on
positions. -/
def Yields : Pattern → List Char → Prop
  | empty, cs => cs = []
  | literal text, cs => cs = text
  | char s, cs => ∃ c, s.contains c = true ∧ cs = [c]
  | assertion _, _ => False
  | repetition part least most _, cs =>
    ∃ words : List (List Char), least ≤ words.length ∧
      (∀ m, most = some m → words.length ≤ max least m) ∧ (∀ w ∈ words, Yields part w) ∧
      cs = words.flatten
  | group _ part, cs => Yields part cs
  | sequence parts, cs => YieldsInSequence parts cs
  | choice branches, cs => YieldsOne branches cs

/-- A word of each of the patterns, one after the other. -/
def YieldsInSequence : List Pattern → List Char → Prop
  | [], cs => cs = []
  | p :: ps, cs => ∃ front back, Yields p front ∧ YieldsInSequence ps back ∧ cs = front ++ back

/-- A word of one of the patterns. -/
def YieldsOne : List Pattern → List Char → Prop
  | [], _ => False
  | p :: ps, cs => Yields p cs ∨ YieldsOne ps cs

end

mutual

/-- The pattern has no conditions on positions. -/
def isUnconditional : Pattern → Bool
  | assertion _ => false
  | repetition part _ _ _ => part.isUnconditional
  | group _ part => part.isUnconditional
  | sequence parts => areUnconditional parts
  | choice branches => areUnconditional branches
  | _ => true

/-- None of the patterns has conditions on positions. -/
def areUnconditional : List Pattern → Bool
  | [] => true
  | p :: ps => p.isUnconditional && areUnconditional ps

end

section text

variable {text : Array Char}

theorem standsAt_append {cs ds : List Char} {i : Nat} :
    standsAt text i (cs ++ ds) = true ↔
      standsAt text i cs = true ∧ standsAt text (i + cs.length) ds = true := by
  induction cs generalizing i with
  | nil => simp [standsAt]
  | cons c cs ih =>
    rw [List.cons_append, standsAt, standsAt, Bool.and_eq_true, Bool.and_eq_true, ih, and_assoc,
      List.length_cons, Nat.add_right_comm, Nat.add_assoc i]

/-- What is related are the positions around the words of a kind, wherever they stand. -/
def Spans (text : Array Char) (r : Nat → Nat → Prop) (word : List Char → Prop) : Prop :=
  ∀ i j, r i j ↔ ∃ cs, word cs ∧ standsAt text i cs = true ∧ j = i + cs.length

namespace Spans

variable {r s : Nat → Nat → Prop} {word word' : List Char → Prop}

theorem stay : Spans text (fun i j => j = i) (· = []) := by
  intro i j
  constructor
  · rintro rfl
    exact ⟨[], rfl, rfl, rfl⟩
  · rintro ⟨_, rfl, -, rfl⟩
    rfl

/-- A single character of some kind. -/
theorem single {p : Char → Bool} :
    Spans text (fun i j => (text[i]?).any p = true ∧ j = i + 1)
      (fun cs => ∃ c, p c = true ∧ cs = [c]) := by
  intro i j
  constructor
  · rintro ⟨some, rfl⟩
    cases here : text[i]? with
    | none => simp [here] at some
    | some c => exact ⟨[c], ⟨c, by simpa [here] using some, rfl⟩, by simp [standsAt, here], rfl⟩
  · rintro ⟨_, ⟨c, is, rfl⟩, stands, rfl⟩
    have here : text[i]? = .some c := by simpa [standsAt] using stands
    exact ⟨by rw [here]; exact is, rfl⟩

theorem followed (front : Spans text r word) (back : Spans text s word') :
    Spans text (fun i j => ∃ k, r i k ∧ s k j)
      (fun cs => ∃ ds es, word ds ∧ word' es ∧ cs = ds ++ es) := by
  intro i j
  constructor
  · rintro ⟨k, first, second⟩
    obtain ⟨ds, isWord, stands, rfl⟩ := (front i k).mp first
    obtain ⟨es, isWord', stands', rfl⟩ := (back _ j).mp second
    exact ⟨ds ++ es, ⟨ds, es, isWord, isWord', rfl⟩, standsAt_append.mpr ⟨stands, stands'⟩,
      by rw [List.length_append, Nat.add_assoc]⟩
  · rintro ⟨_, ⟨ds, es, isWord, isWord', rfl⟩, stands, rfl⟩
    obtain ⟨first, second⟩ := standsAt_append.mp stands
    refine ⟨i + ds.length, (front _ _).mpr ⟨ds, isWord, first, rfl⟩, (back _ _).mpr ?_⟩
    exact ⟨es, isWord', second, by rw [List.length_append, Nat.add_assoc]⟩

theorem either (one : Spans text r word) (other : Spans text s word') :
    Spans text (fun i j => r i j ∨ s i j) (fun cs => word cs ∨ word' cs) := by
  intro i j
  refine (or_congr (one i j) (other i j)).trans (exists_or.symm.trans ?_)
  exact exists_congr fun cs => or_and_right.symm

/-- So many words in a row. -/
theorem steps (one : Spans text r word) (n : Nat) :
    Spans text (Steps r n) (fun cs => ∃ words : List (List Char), words.length = n ∧
      (∀ w ∈ words, word w) ∧ cs = words.flatten) := by
  induction n with
  | zero =>
    intro i j
    refine steps_zero.trans ((stay i j).trans (exists_congr fun cs => and_congr_left' ⟨?_, ?_⟩))
    · rintro rfl
      exact ⟨[], rfl, nofun, rfl⟩
    · rintro ⟨words, none, -, rfl⟩
      rw [List.length_eq_zero_iff.mp none]
      rfl
  | succ n ih =>
    intro i j
    refine steps_succ.trans
      ((one.followed ih i j).trans (exists_congr fun cs => and_congr_left' ⟨?_, ?_⟩))
    · rintro ⟨w, _, first, ⟨words, rfl, others, rfl⟩, rfl⟩
      exact ⟨w :: words, rfl, List.forall_mem_cons.mpr ⟨first, others⟩, rfl⟩
    · rintro ⟨_ | ⟨w, words⟩, count, all, rfl⟩
      · cases count
      · obtain ⟨first, others⟩ := List.forall_mem_cons.mp all
        exact ⟨w, words.flatten, first, ⟨words, Nat.succ.inj count, others, rfl⟩, rfl⟩

end Spans

mutual

/-- Without conditions a pattern matches where a word of it stands. -/
theorem matches_iff_yields : ∀ p : Pattern, p.isUnconditional = true →
    Spans text (Matches text p) (Yields p)
  | empty, _ => .stay
  | literal cs, _ => fun i j =>
    (exists_eq_left (p := fun ds => standsAt text i ds = true ∧ j = i + ds.length)).symm
  | char s, _ => .single
  | repetition part least most _, plain => fun i j => by
    have run := fun n => (matches_iff_yields part plain).steps n i j
    constructor
    · rintro ⟨n, enough, few, steps⟩
      obtain ⟨cs, ⟨words, rfl, all, rfl⟩, stands, rfl⟩ := (run n).mp steps
      exact ⟨words.flatten, ⟨words, enough, few, all, rfl⟩, stands, rfl⟩
    · rintro ⟨_, ⟨words, enough, few, all, rfl⟩, stands, rfl⟩
      exact ⟨words.length, enough, few,
        (run words.length).mpr ⟨words.flatten, ⟨words, rfl, all, rfl⟩, stands, rfl⟩⟩
  | group _ part, plain => matches_iff_yields part plain
  | sequence parts, plain => matchInSequence_iff_yields parts plain
  | choice branches, plain => matchesOne_iff_yields branches plain

theorem matchInSequence_iff_yields : ∀ ps : List Pattern, areUnconditional ps = true →
    Spans text (MatchInSequence text ps) (YieldsInSequence ps)
  | [], _ => .stay
  | p :: ps, plain =>
    have plain := Bool.and_eq_true_iff.mp plain
    (matches_iff_yields p plain.1).followed (matchInSequence_iff_yields ps plain.2)

theorem matchesOne_iff_yields : ∀ ps : List Pattern, areUnconditional ps = true →
    Spans text (MatchesOne text ps) (YieldsOne ps)
  | [], _ => fun i j => by simp [MatchesOne, YieldsOne]
  | p :: ps, plain =>
    have plain := Bool.and_eq_true_iff.mp plain
    (matches_iff_yields p plain.1).either (matchesOne_iff_yields ps plain.2)

end

end text

/-! ## Words of repetitions and choices -/

section words

variable {p : Pattern} {s : CharSet} {cs : List Char} {least : Nat} {greedy : Bool}

theorem yields_optional_iff :
    Yields (repetition p 0 (some 1) greedy) cs ↔ cs = [] ∨ Yields p cs := by
  constructor
  · rintro ⟨words, -, few, all, rfl⟩
    match words, few 1 rfl with
    | [], _ => exact .inl rfl
    | [w], _ => exact .inr (by simpa using all)
  · rintro (rfl | word)
    · exact ⟨[], Nat.le_refl 0, fun _ _ => Nat.zero_le _, nofun, rfl⟩
    · refine ⟨[cs], Nat.zero_le _, ?_, by simpa using word, by simp⟩
      rintro _ ⟨⟩
      exact Nat.le_refl 1

theorem yields_unbounded_iff : Yields (repetition p least none greedy) cs ↔
    ∃ words : List (List Char), least ≤ words.length ∧ (∀ w ∈ words, Yields p w) ∧
      cs = words.flatten := by
  simp [Yields]

/-- Repeated single characters are as many characters. -/
theorem yields_repeated_char_iff : Yields (repetition (char s) least none greedy) cs ↔
    least ≤ cs.length ∧ ∀ c ∈ cs, s.contains c = true := by
  have singles : ∀ words : List (List Char), (∀ w ∈ words, Yields (char s) w) →
      words.flatten.length = words.length ∧ ∀ c ∈ words.flatten, s.contains c = true := by
    intro words all
    induction words with
    | nil => exact ⟨rfl, nofun⟩
    | cons w words ih =>
      obtain ⟨⟨c, within, rfl⟩, others⟩ := List.forall_mem_cons.mp all
      obtain ⟨length, all⟩ := ih others
      exact ⟨congrArg Nat.succ length, List.forall_mem_cons.mpr ⟨within, all⟩⟩
  rw [yields_unbounded_iff]
  constructor
  · rintro ⟨words, enough, all, rfl⟩
    obtain ⟨length, within⟩ := singles words all
    rw [length]
    exact ⟨enough, within⟩
  · rintro ⟨enough, within⟩
    refine ⟨cs.map ([·]), ?_, ?_, (List.flatMap_singleton' cs).symm⟩
    · rwa [List.length_map]
    · exact List.forall_mem_map.mpr fun c mem => ⟨c, within c mem, rfl⟩

theorem yieldsOne_iff {ps : List Pattern} : YieldsOne ps cs ↔ ∃ p ∈ ps, Yields p cs := by
  induction ps with
  | nil => simp [YieldsOne]
  | cons p ps ih => simp [YieldsOne, ih]

end words

/-! ## Whole texts -/

theorem matchInSequence_append {text : Array Char} {ps qs : List Pattern} {i j : Nat} :
    MatchInSequence text (ps ++ qs) i j ↔
      ∃ k, MatchInSequence text ps i k ∧ MatchInSequence text qs k j := by
  induction ps generalizing i with
  | nil => simp [MatchInSequence]
  | cons p ps ih =>
    simp only [List.cons_append, MatchInSequence, ih]
    constructor
    · rintro ⟨l, first, k, others, last⟩
      exact ⟨k, ⟨l, first, others⟩, last⟩
    · rintro ⟨k, ⟨l, first, others⟩, last⟩
      exact ⟨l, first, k, others, last⟩

theorem standsAt_iff_starts {text cs : List Char} {i : Nat} :
    standsAt text.toArray i cs = true ↔ cs <+: text.drop i := by
  induction cs generalizing i with
  | nil => simp [standsAt]
  | cons c cs ih =>
    have here : text.toArray[i]? = (text.drop i).head? := by
      rw [List.getElem?_toArray, List.head?_drop]
    have later : text.drop (i + 1) = (text.drop i).tail := List.tail_drop.symm
    rw [standsAt, Bool.and_eq_true, ih, here, later]
    cases text.drop i with
    | nil => simp
    | cons d ds =>
      rw [List.head?_cons, List.tail_cons, List.cons_prefix_cons, beq_iff_eq, Option.some_inj]
      exact and_congr_left' eq_comm

/-- As many characters as the text has stand at its front only if they are the text. -/
theorem standsAt_whole_iff {text cs : List Char} :
    standsAt text.toArray 0 cs = true ∧ text.length = cs.length ↔ cs = text := by
  rw [standsAt_iff_starts, List.drop_zero]
  constructor
  · rintro ⟨front, length⟩
    exact front.eq_of_length length.symm
  · rintro rfl
    exact ⟨List.prefix_rfl, rfl⟩

/-- Patterns in a row, between the start and the end of the text. -/
def whole (ps : List Pattern) : Pattern :=
  sequence (assertion .textStart :: (ps ++ [assertion .textEnd]))

/-- Where the start and the end of the text are required, the whole text has to be a word. -/
theorem occursIn_whole_iff {ps : List Pattern} (plain : areUnconditional ps = true)
    {text : String} : (whole ps).occursIn text = true ↔ YieldsInSequence ps text.toList := by
  have words : Spans text.toList.toArray (MatchInSequence text.toList.toArray ps)
      (YieldsInSequence ps) := matchInSequence_iff_yields ps plain
  have start : ∀ i, Assertion.textStart.Holds text.toList.toArray i = true ↔ i = 0 := fun i => by
    simp [Assertion.Holds]
  have ending : ∀ i, Assertion.textEnd.Holds text.toList.toArray i = true ↔
      i = text.toList.length := fun i => by simp [Assertion.Holds]
  have inner : (whole ps).occursIn text = true ↔
      MatchInSequence text.toList.toArray ps 0 text.toList.length := by
    rw [occursIn_iff]
    constructor
    · rintro ⟨i, -, j, _, ⟨starts, rfl⟩, rest⟩
      obtain ⟨k, inner, _, ⟨ends, rfl⟩, rfl⟩ := matchInSequence_append.mp rest
      rwa [(start _).mp starts, (ending _).mp ends] at inner
    · intro inner
      exact ⟨0, Nat.zero_le _, _, 0, ⟨(start 0).mpr rfl, rfl⟩,
        matchInSequence_append.mpr ⟨_, inner, _, ⟨(ending _).mpr rfl, rfl⟩, rfl⟩⟩
  rw [inner, words 0 text.toList.length]
  simp only [Nat.zero_add, standsAt_whole_iff, exists_eq_right]

end Pattern

end RecordRules

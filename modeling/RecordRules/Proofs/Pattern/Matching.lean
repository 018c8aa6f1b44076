import RecordRules.Pattern.Basic

/-!
# What patterns match

`Pattern.Matches` says which parts of a text a pattern matches, from a position to another one.
The positions that are found by going through a text are exactly those that matches lead to
(`mem_ends_iff`), although a repetition is not tried more often than there are characters: what does
not advance may be left out (`Steps.shorten`).  So a pattern occurs in a text exactly if it matches
some part of it (`occursIn_iff`).
-/

namespace RecordRules

namespace Pattern

/-! ## Matches -/

/-- So many steps lead from a position to another one. -/
inductive Steps (r : Nat → Nat → Prop) : Nat → Nat → Nat → Prop
  | none (i : Nat) : Steps r 0 i i
  | more {n i j k : Nat} : r i j → Steps r n j k → Steps r (n + 1) i k

mutual

/-- The pattern matches the text from a position to another one.  A bound on the number of
repetitions that is below the least number counts as that one. -/
def Matches (text : Array Char) : Pattern → Nat → Nat → Prop
  | empty, i, j => j = i
  | literal cs, i, j => standsAt text i cs = true ∧ j = i + cs.length
  | char s, i, j => (text[i]?).any s.contains = true ∧ j = i + 1
  | assertion a, i, j => a.Holds text i = true ∧ j = i
  | repetition part least most _, i, j =>
    ∃ n, least ≤ n ∧ (∀ m, most = some m → n ≤ max least m) ∧ Steps (Matches text part) n i j
  | group _ part, i, j => Matches text part i j
  | sequence parts, i, j => MatchInSequence text parts i j
  | choice branches, i, j => MatchesOne text branches i j

/-- The patterns match one after the other. -/
def MatchInSequence (text : Array Char) : List Pattern → Nat → Nat → Prop
  | [], i, j => j = i
  | p :: ps, i, j => ∃ k, Matches text p i k ∧ MatchInSequence text ps k j

/-- One of the patterns matches. -/
def MatchesOne (text : Array Char) : List Pattern → Nat → Nat → Prop
  | [], _, _ => False
  | p :: ps, i, j => Matches text p i j ∨ MatchesOne text ps i j

end

/-! ## Steps -/

section steps

variable {r : Nat → Nat → Prop} {m n i j k : Nat}

theorem steps_zero : Steps r 0 i j ↔ j = i := by
  constructor
  · rintro ⟨⟩
    rfl
  · rintro rfl
    exact .none j

theorem steps_succ : Steps r (n + 1) i k ↔ ∃ j, r i j ∧ Steps r n j k := by
  constructor
  · rintro ⟨⟩
    next j first others => exact ⟨j, first, others⟩
  · rintro ⟨j, first, others⟩
    exact .more first others

theorem Steps.append (front : Steps r m i j) (back : Steps r n j k) : Steps r (m + n) i k := by
  induction front with
  | none i => rwa [Nat.zero_add]
  | more first _ ih =>
    rw [Nat.succ_add]
    exact .more first (ih back)

theorem Steps.split (steps : Steps r (m + n) i k) : ∃ j, Steps r m i j ∧ Steps r n j k := by
  induction m generalizing i with
  | zero =>
    rw [Nat.zero_add] at steps
    exact ⟨i, .none i, steps⟩
  | succ m ih =>
    rw [Nat.succ_add] at steps
    obtain ⟨j, first, others⟩ := steps_succ.mp steps
    obtain ⟨l, front, back⟩ := ih others
    exact ⟨l, .more first front, back⟩

/-- The steps never go back, and never beyond an end unless they start there. -/
structure Advances (r : Nat → Nat → Prop) (size : Nat) : Prop where
  forward : ∀ {i j}, r i j → i ≤ j
  within : ∀ {i j}, r i j → j = i ∨ j ≤ size

theorem Advances.steps {size : Nat} (advances : Advances r size) (steps : Steps r n i j) :
    i ≤ j ∧ (j = i ∨ j ≤ size) := by
  induction steps with
  | none i => exact ⟨Nat.le_refl i, .inl rfl⟩
  | more first _ ih =>
    have forward := advances.forward first
    have within := advances.within first
    omega

/-- What does not advance may be left out. -/
theorem Steps.shorten {size : Nat} (advances : Advances r size) (steps : Steps r n i j) :
    ∃ m ≤ j - i, Steps r m i j := by
  induction steps with
  | none i => exact ⟨0, Nat.zero_le _, .none i⟩
  | @more n i j k first others ih =>
    obtain ⟨m, few, shorter⟩ := ih
    by_cases stays : j = i
    · subst stays
      exact ⟨m, few, shorter⟩
    · have forward := advances.forward first
      have forward' := (advances.steps others).1
      exact ⟨m + 1, by omega, .more first shorter⟩

end steps

/-! ## Positions -/

theorem mem_passed_iff {test : Nat → Bool} {length j : Nat} {positions : List Nat} :
    j ∈ (positions.filter test).map (· + length) ↔
      ∃ i ∈ positions, test i = true ∧ j = i + length := by
  rw [List.mem_map]
  constructor
  · rintro ⟨i, kept, rfl⟩
    obtain ⟨start, passes⟩ := List.mem_filter.mp kept
    exact ⟨i, start, passes, rfl⟩
  · rintro ⟨i, start, passes, rfl⟩
    exact ⟨i, List.mem_filter.mpr ⟨start, passes⟩, rfl⟩

theorem mem_merge {xs ys : List Nat} {j : Nat} : j ∈ merge xs ys ↔ j ∈ xs ∨ j ∈ ys := by
  fun_induction merge xs ys with
  | case1 ys => simp
  | case2 xs _ => simp
  | case3 x xs y ys less ih => rw [List.mem_cons, ih, List.mem_cons, List.mem_cons, or_assoc]
  | case4 x xs y ys _ less ih =>
    rw [List.mem_cons, ih, List.mem_cons, List.mem_cons]
    exact or_left_comm
  | case5 x xs y ys not_less not_less' ih =>
    obtain rfl : x = y := by omega
    rw [List.mem_cons, ih, List.mem_cons, List.mem_cons]
    exact or_or_distrib_left

section positions

variable {r : Nat → Nat → Prop} {step : List Nat → List Nat}
  (steps : ∀ {positions j}, j ∈ step positions ↔ ∃ i ∈ positions, r i j)

include steps

/-- Where each step leads to one of the positions, a run from one of them ends at one of them. -/
theorem mem_of_run {positions : List Nat} (closed : ∀ j ∈ step positions, j ∈ positions)
    {n i j : Nat} (start : i ∈ positions) (run : Steps r n i j) : j ∈ positions := by
  induction run with
  | none _ => exact start
  | more first _ ih => exact ih (closed _ (steps.mpr ⟨_, start, first⟩))

/-- Where each position is led to from one of them, it is so in any number of steps. -/
theorem exists_run {positions : List Nat} (fed : ∀ j ∈ positions, j ∈ step positions) (n : Nat)
    {j : Nat} (mem : j ∈ positions) : ∃ i ∈ positions, Steps r n i j := by
  induction n generalizing j with
  | zero => exact ⟨j, mem, .none j⟩
  | succ n ih =>
    obtain ⟨k, there, last⟩ := steps.mp (fed j mem)
    obtain ⟨i, start, run⟩ := ih there
    exact ⟨i, start, run.append (.more last (.none j))⟩

theorem mem_stepped_iff {n j : Nat} {positions : List Nat} :
    j ∈ stepped step n positions ↔ ∃ i ∈ positions, Steps r n i j := by
  induction n generalizing positions with
  | zero => simp [stepped, steps_zero]
  | succ n ih =>
    rw [stepped]
    split
    · next same =>
      constructor
      · exact exists_run steps (fun j mem => by rwa [same]) (n + 1)
      · rintro ⟨i, start, run⟩
        exact mem_of_run steps (fun j mem => by rwa [same] at mem) start run
    · rw [ih]
      constructor
      · rintro ⟨k, there, run⟩
        obtain ⟨i, start, first⟩ := steps.mp there
        exact ⟨i, start, .more first run⟩
      · rintro ⟨i, start, run⟩
        obtain ⟨k, first, others⟩ := steps_succ.mp run
        exact ⟨k, steps.mpr ⟨i, start, first⟩, others⟩

theorem mem_reached_iff {n j : Nat} {positions : List Nat} :
    j ∈ reached step n positions ↔ ∃ i ∈ positions, ∃ m ≤ n, Steps r m i j := by
  induction n generalizing positions with
  | zero => simp [reached, steps_zero]
  | succ n ih =>
    rw [reached]
    split
    · next same =>
      constructor
      · exact fun mem => ⟨j, mem, 0, Nat.zero_le _, .none j⟩
      · rintro ⟨i, start, m, -, run⟩
        refine mem_of_run steps (fun j mem => ?_) start run
        rw [← same]
        exact mem_merge.mpr (.inr mem)
    · rw [ih]
      constructor
      · rintro ⟨k, there, m, few, run⟩
        rcases mem_merge.mp there with start | there
        · exact ⟨k, start, m, by omega, run⟩
        · obtain ⟨i, start, first⟩ := steps.mp there
          exact ⟨i, start, m + 1, by omega, .more first run⟩
      · rintro ⟨i, start, m, few, run⟩
        cases run with
        | none _ => exact ⟨j, mem_merge.mpr (.inl start), 0, Nat.zero_le _, .none j⟩
        | more first others =>
          have there := steps.mpr ⟨i, start, first⟩
          exact ⟨_, mem_merge.mpr (.inr there), _, by omega, others⟩

/-- What so many steps and some more lead to. -/
theorem mem_repeated_iff {least extra j : Nat} {positions : List Nat} :
    j ∈ reached step extra (stepped step least positions) ↔
      ∃ i ∈ positions, ∃ m ≤ extra, Steps r (least + m) i j := by
  rw [mem_reached_iff steps]
  constructor
  · rintro ⟨k, there, m, few, back⟩
    obtain ⟨i, start, front⟩ := (mem_stepped_iff steps).mp there
    exact ⟨i, start, m, few, front.append back⟩
  · rintro ⟨i, start, m, few, run⟩
    obtain ⟨k, front, back⟩ := run.split
    exact ⟨k, (mem_stepped_iff steps).mpr ⟨i, start, front⟩, m, few, back⟩

end positions

/-! ## Texts -/

section text

variable {text : Array Char}

theorem standsAt_within {cs : List Char} {i : Nat} (stands : standsAt text i cs = true) :
    cs = [] ∨ i + cs.length ≤ text.size := by
  induction cs generalizing i with
  | nil => exact .inl rfl
  | cons c cs ih =>
    rw [standsAt, Bool.and_eq_true] at stands
    have here : i < text.size := (Array.getElem?_eq_some_iff.mp (eq_of_beq stands.1)).1
    right
    rw [List.length_cons]
    rcases ih stands.2 with rfl | within
    · exact here
    · omega

mutual

/-- Matches never go back, and none of them goes beyond the end of the text. -/
theorem advances_matches : ∀ p : Pattern, Advances (Matches text p) text.size
  | empty => ⟨fun m => by rw [Matches] at m; omega, fun m => .inl m⟩
  | literal cs => by
    constructor
    · rintro i j ⟨-, rfl⟩
      omega
    · rintro i j ⟨stands, rfl⟩
      rcases standsAt_within stands with rfl | within
      · exact .inl rfl
      · exact .inr within
  | char s => by
    constructor
    · rintro i j ⟨-, rfl⟩
      omega
    · rintro i j ⟨some, rfl⟩
      cases here : text[i]? with
      | none => simp [here] at some
      | some c => exact .inr (Array.getElem?_eq_some_iff.mp here).1
  | assertion a => ⟨fun ⟨_, same⟩ => by omega, fun ⟨_, same⟩ => .inl same⟩
  | repetition part least most greedy => by
    have advances := advances_matches part
    constructor
    · rintro i j ⟨n, -, -, run⟩
      exact (advances.steps run).1
    · rintro i j ⟨n, -, -, run⟩
      exact (advances.steps run).2
  | group _ part => advances_matches part
  | sequence parts => advances_inSequence parts
  | choice branches => advances_one branches

theorem advances_inSequence : ∀ ps : List Pattern, Advances (MatchInSequence text ps) text.size
  | [] => ⟨fun m => by rw [MatchInSequence] at m; omega, fun m => .inl m⟩
  | p :: ps => by
    have first := advances_matches p
    have others := advances_inSequence ps
    constructor
    · rintro i j ⟨k, front, back⟩
      exact Nat.le_trans (first.forward front) (others.forward back)
    · rintro i j ⟨k, front, back⟩
      have within := first.within front
      have within' := others.within back
      omega

theorem advances_one : ∀ ps : List Pattern, Advances (MatchesOne text ps) text.size
  | [] => ⟨False.elim, False.elim⟩
  | p :: ps =>
    ⟨fun one => one.elim (advances_matches p).forward (advances_one ps).forward,
      fun one => one.elim (advances_matches p).within (advances_one ps).within⟩

end

mutual

/-- What is found are the positions that matches lead to. -/
theorem mem_ends_iff : ∀ (p : Pattern) {positions : List Nat} {j : Nat},
    j ∈ ends text p positions ↔ ∃ i ∈ positions, Matches text p i j
  | empty, positions, j => by simp [ends, Matches]
  | literal cs, positions, j => mem_passed_iff
  | char s, positions, j => mem_passed_iff
  | assertion a, positions, j => by
    rw [ends, List.mem_filter]
    constructor
    · rintro ⟨start, holds⟩
      exact ⟨j, start, holds, rfl⟩
    · rintro ⟨i, start, holds, rfl⟩
      exact ⟨start, holds⟩
  | repetition part least (some most) _, positions, j => by
    refine (mem_repeated_iff (mem_ends_iff part)).trans (exists_congr fun i => and_congr_right' ?_)
    constructor
    · rintro ⟨m, few, run⟩
      refine ⟨least + m, by omega, ?_, run⟩
      rintro _ ⟨⟩
      omega
    · rintro ⟨n, enough, few, run⟩
      obtain ⟨m, rfl⟩ := Nat.exists_eq_add_of_le enough
      have few := few most rfl
      exact ⟨m, by omega, run⟩
  | repetition part least none _, positions, j => by
    refine (mem_repeated_iff (mem_ends_iff part)).trans (exists_congr fun i => and_congr_right' ?_)
    constructor
    · rintro ⟨m, -, run⟩
      exact ⟨least + m, by omega, nofun, run⟩
    · rintro ⟨n, enough, -, run⟩
      obtain ⟨m, rfl⟩ := Nat.exists_eq_add_of_le enough
      obtain ⟨k, front, back⟩ := run.split
      have advances : Advances (Matches text part) text.size := advances_matches part
      obtain ⟨m', few, shorter⟩ := back.shorten advances
      have within := (advances.steps back).2
      exact ⟨m', by omega, front.append shorter⟩
  | group _ part, positions, j => mem_ends_iff part
  | sequence parts, positions, j => mem_endsOfSequence_iff parts
  | choice branches, positions, j => mem_endsOfChoice_iff branches

theorem mem_endsOfSequence_iff : ∀ (ps : List Pattern) {positions : List Nat} {j : Nat},
    j ∈ endsOfSequence text ps positions ↔ ∃ i ∈ positions, MatchInSequence text ps i j
  | [], positions, j => by simp [endsOfSequence, MatchInSequence]
  | p :: ps, positions, j => by
    rw [endsOfSequence, mem_endsOfSequence_iff ps]
    constructor
    · rintro ⟨k, there, back⟩
      obtain ⟨i, start, front⟩ := (mem_ends_iff p).mp there
      exact ⟨i, start, k, front, back⟩
    · rintro ⟨i, start, k, front, back⟩
      exact ⟨k, (mem_ends_iff p).mpr ⟨i, start, front⟩, back⟩

theorem mem_endsOfChoice_iff : ∀ (ps : List Pattern) {positions : List Nat} {j : Nat},
    j ∈ endsOfChoice text ps positions ↔ ∃ i ∈ positions, MatchesOne text ps i j
  | [], positions, j => by simp [endsOfChoice, MatchesOne]
  | p :: ps, positions, j => by
    rw [endsOfChoice, mem_merge, mem_ends_iff p, mem_endsOfChoice_iff ps, ← exists_or]
    refine exists_congr fun i => ?_
    rw [← and_or_left]
    rfl

end

/-- A pattern occurs in a text exactly if it matches from some position of it. -/
theorem occursIn_iff {text : String} {p : Pattern} :
    p.occursIn text = true ↔
      ∃ i ≤ text.toList.length, ∃ j, Matches text.toList.toArray p i j := by
  have found : p.occursIn text = true ↔
      ∃ j, j ∈ ends text.toList.toArray p (List.range (text.toList.toArray.size + 1)) := by
    rw [occursIn, Bool.not_eq_true', List.isEmpty_eq_false_iff_exists_mem]
  rw [found]
  simp only [mem_ends_iff, List.mem_range, List.size_toArray, Nat.lt_succ_iff]
  constructor
  · rintro ⟨j, i, within, m⟩
    exact ⟨i, within, j, m⟩
  · rintro ⟨i, within, j, m⟩
    exact ⟨j, i, within, m⟩

end text

end Pattern

end RecordRules

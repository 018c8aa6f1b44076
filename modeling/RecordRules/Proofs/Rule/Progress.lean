import RecordRules.Proofs.Rule.Parse.Calls
import RecordRules.Proofs.Rule.Parsing
import RecordRules.Proofs.Rule.Scanning

/-!
# Reading goes on

A scanner takes token after token and a parser calls others for the tokens that are left, and both
come to an end because nothing is read twice: a token that is not the end of the text takes at least
one character (`Token.next_advances`), and a parser that reads something from its start on takes at
least one token and never the last (`scan_and_parse_advance`).
-/

namespace RecordRules

namespace Token

/-- Taken one after the other from one position on, the next tokens are these, of which none is the
end of the text, and they lead to another position. -/
inductive Takes : Nat → List Char → List Token → Nat → List Char → Prop
  | nil {position : Nat} {cs : List Char} : Takes position cs [] position cs
  | cons {position middle after : Nat} {cs text rest : List Char} {t : Token} {ts : List Token} :
    next position cs = .ok (t, middle, text) → t.kind ≠ .ending → Takes middle text ts after rest →
    Takes position cs (t :: ts) after rest

variable {position after : Nat} {text front cs rest : List Char} {t : Token} {ts : List Token}

/-- A token that is not the end takes at least one character, and all characters that it takes are
whole. -/
theorem next_advances (here : splitAtByte? position text = some (front, cs))
    (taken : next position cs = .ok (t, after, rest)) (more : t.kind ≠ .ending) :
    position < after ∧ after ≤ byteLength text ∧
      ∃ front', splitAtByte? after text = some (front', rest) ∧ front.length < front'.length := by
  obtain ⟨rfl, rfl⟩ := splitAtByte?_eq_some_iff.mp here
  obtain ⟨before, rfl, rfl⟩ := exists_before_of_next taken
  have some : 0 < before.length := by
    have shorter := next_shorter taken more
    rw [List.length_append] at shorter
    omega
  have bytes : 0 < byteLength before :=
    Nat.pos_of_ne_zero fun none => (List.length_pos_iff.mp some) (byteLength_eq_zero none)
  refine ⟨Nat.lt_add_of_pos_right bytes, ?_, front ++ before,
    splitAtByte?_eq_some_iff.mpr ⟨(List.append_assoc _ _ _).symm, byteLength_append _ _⟩, ?_⟩
  · rw [byteLength_append, byteLength_append, ← Nat.add_assoc]
    exact Nat.le_add_right _ _
  · rw [List.length_append]
    exact Nat.lt_add_of_pos_right some

/-- There are no more tokens than characters that they take. -/
theorem Takes.length_le (takes : Takes position cs ts after rest) :
    ts.length + rest.length ≤ cs.length := by
  induction takes with
  | nil => simp
  | cons taken more _ ih =>
    have shorter := next_shorter taken more
    rw [List.length_cons]
    omega

/-- A scan takes tokens up to the end of the text or to where there is no token. -/
theorem exists_takes (position : Nat) (cs : List Char) :
    ∃ ts after rest, Takes position cs ts after rest ∧
      ((∃ t, next after rest = .ok (t, t.position, []) ∧ t.kind = .ending ∧
          scanFrom position cs = .ok (ts ++ [t])) ∨
        ∃ e, next after rest = .error e ∧ scanFrom position cs = .error e) := by
  induction position, cs using scanFrom.induct with
  | case1 position cs e fails =>
    exact ⟨[], position, cs, .nil, .inr ⟨e, fails, scanFrom_of_error fails⟩⟩
  | case2 position cs t after rest taken ending =>
    rcases next_eq_ok taken with ⟨-, allBlank⟩ | ⟨_, _, _, -, word, -⟩
    · cases (next_ending allBlank position).symm.trans taken
      exact ⟨[], position, cs, .nil, .inl ⟨_, taken, ending, scanFrom_ending taken ending⟩⟩
    · exact absurd ending word.ne_ending
  | case3 position cs t after rest taken more ih =>
    obtain ⟨ts, final, others, takes, ends⟩ := ih
    refine ⟨t :: ts, final, others, .cons taken more takes, ?_⟩
    rw [scanFrom_of_next taken more]
    rcases ends with ⟨last, found, ending, scanned⟩ | ⟨e, fails, scanned⟩
    · exact .inl ⟨last, found, ending, by rw [scanned]; rfl⟩
    · exact .inr ⟨e, fails, by rw [scanned]; rfl⟩

end Token

open RecordRules.Parse

/-- From any character boundary of a text, a next token that is not the end takes at least one
character and leads to a boundary that is not behind the end; so a scan takes at most as many tokens
as there are characters before it comes to the end or fails.

In tokens that end in an ending, a parser that begins with a token and succeeds has gone on, and not
past the ending.  Its answer depends on the calls that it makes alone.  Calls are not nested as deep
as the first of them weighs, and all of them look at no tokens but these.  So none is without a
budget if the first one has a budget of its weight, as it has when a rule is read, and the answer is
the same for all such budgets. -/
theorem scan_and_parse_advance (rule : String) {tokens : List Token} (ended : Ended tokens) :
    (∀ position after front cs rest t,
      splitAtByte? position rule.toList = some (front, cs) →
      Token.next position cs = .ok (t, after, rest) → t.kind ≠ .ending →
      position < after ∧ after ≤ byteLength rule.toList ∧
        ∃ front', splitAtByte? after rule.toList = some (front', rest) ∧
          front.length < front'.length) ∧
    (∃ ts after rest, Token.Takes 0 rule.toList ts after rest ∧ ts.length ≤ rule.length ∧
      ((∃ t, Token.next after rest = .ok (t, t.position, []) ∧ t.kind = .ending ∧
          Token.scan rule = .ok (ts ++ [t])) ∨
        ∃ e, Token.next after rest = .error e ∧ Token.scan rule = .error e)) ∧
    (Call.disjunction tokens).weight ≤ budgetFor tokens ∧
    (∀ c budget budget', (∀ made, Makes budget c made → made.run budget = made.run budget') →
      c.run (budget + 1) = c.run (budget' + 1)) ∧
    ∀ p < tokens.length, ∀ c : Call, c.tokens = tokens.drop p → ∀ budget,
      (c.Begins → ∀ answer rest, c.run budget = .ok (answer, rest) →
        ∃ q, p < q ∧ q < tokens.length ∧ rest = tokens.drop q) ∧
      (∀ left d, Reaches budget c left d → budget < left + c.weight) ∧
      (∀ left d ts, Reaches budget c (left + 1) d → Looks left d ts →
        ∃ q, p ≤ q ∧ q < tokens.length ∧ ts = tokens.drop q) ∧
      (c.weight ≤ budget → (∀ left d, Reaches budget c left d → 0 < left) ∧
        ∀ budget', c.weight ≤ budget' → c.run budget' = c.run budget) := by
  refine ⟨fun _ _ _ _ _ _ here taken more => Token.next_advances here taken more, ?_, ?_,
    fun _ _ _ same => run_congr same, ?_⟩
  · obtain ⟨ts, after, rest, takes, ends⟩ := Token.exists_takes 0 rule.toList
    have length := takes.length_le
    rw [String.length_toList] at length
    exact ⟨ts, after, rest, takes, by omega, ends⟩
  · simp only [Call.weight, Call.tokens, Call.rank, budgetFor]
    omega
  · intro p inside c given budget
    have endedHere : Ended c.tokens := given ▸ ended.drop inside
    have shallow : ∀ left d, Reaches budget c left d → budget < left + c.weight :=
      fun left d reaches => reaches.depth_lt endedHere
    refine ⟨fun begins answer rest parsed => ?_, shallow, fun left d ts reaches looks => ?_,
      fun enough => ⟨fun left d reaches => ?_, fun budget' enough' => ?_⟩⟩
    · obtain ⟨kinds, spelled, some⟩ := spelled_of_run endedHere parsed
      rw [given] at spelled
      have taken := List.length_pos_iff.mpr (some begins)
      exact ⟨p + kinds.length, Nat.lt_add_of_pos_right taken, spelled.eq_drop⟩
    · obtain ⟨⟨kinds, spelled⟩, -⟩ := reaches.within endedHere
      obtain ⟨others, spelledOthers⟩ := spelled_of_looks spelled.1 looks
      have all := spelled.append spelledOthers
      rw [given] at all
      exact ⟨_, Nat.le_add_right _ _, all.eq_drop⟩
    · have depth := shallow left d reaches
      omega
    · exact run_of_weight_le endedHere enough' enough

/-- The operator behind a name of two bytes, the rule with both names, and what comes after the
second one, which two calls are nested to look at. -/
theorem scan_and_parse_advance_of_chain :
    let rule := "é || x"
    let tokens : List Token :=
      [⟨.ident "é", 0⟩, ⟨.or, 3⟩, ⟨.ident "x", 6⟩, ⟨.ending, 7⟩]
    let whole : Call := .disjunction tokens
    let second : Call := .conjunction [⟨.ident "x", 6⟩, ⟨.ending, 7⟩]
    Ended tokens ∧ Token.next 2 " || x".toList = .ok (⟨.or, 3⟩, 5, " x".toList) ∧
      (∃ front', splitAtByte? 5 rule.toList = some (front', " x".toList) ∧ 1 < front'.length) ∧
      disjunction 22 tokens = .ok (.or [.ident "é", .ident "x"], [⟨.ending, 7⟩]) ∧
      (∃ q, 0 < q ∧ q < 4 ∧ [⟨.ending, 7⟩] = tokens.drop q) ∧
      whole.run 100 = whole.run 22 ∧
      Reaches 20 second 18 (.named "x" [⟨.ending, 7⟩]) ∧
      ∃ q, 2 ≤ q ∧ q < 4 ∧ [⟨.ending, 7⟩] = tokens.drop q := by
  intro rule tokens whole second
  have ended : Ended tokens := rfl
  have taken : Token.next 2 " || x".toList = .ok (⟨.or, 3⟩, 5, " x".toList) := by decide +kernel
  have boundary : splitAtByte? 2 rule.toList = some (['é'], " || x".toList) := by decide +kernel
  have parsed : disjunction 22 tokens = .ok (.or [.ident "é", .ident "x"], [⟨.ending, 7⟩]) := rfl
  have reaches : Reaches 20 second 18 (.named "x" [⟨.ending, 7⟩]) :=
    .through .firstConjunct (.through (.afterName rfl) .here)
  obtain ⟨advances, -, -, -, parses⟩ := scan_and_parse_advance rule ended
  obtain ⟨-, -, front', further⟩ := advances 2 5 _ _ _ _ boundary taken (by simp)
  obtain ⟨begins, -, -, enough⟩ := parses 0 (by simp [tokens]) whole rfl 22
  obtain ⟨-, -, looks, -⟩ := parses 2 (by simp [tokens]) second rfl 20
  exact ⟨ended, taken, ⟨front', further⟩, parsed, begins trivial _ _ parsed,
    (enough (by decide)).2 100 (by decide), reaches, looks 17 _ _ reaches .given⟩

end RecordRules

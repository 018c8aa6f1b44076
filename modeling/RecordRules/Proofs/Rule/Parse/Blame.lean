import RecordRules.Proofs.Rule.Parsing

/-!
# What a syntax error blames

Where the parser meets a token that it cannot use, the tokens before go on to a rule, and no rule
goes on with that token.  So it neither reports a mistake before it is certain nor reads past it.

Every parser has a language, the token kinds that derivations of its production spell, and may be
followed by some kinds of tokens only.  `Blames` says both of it at once: what it has taken can be
completed in its language, and together with the token that it reports it cannot, whatever follows.
-/

namespace RecordRules.Parse

open RecordRules.Derivation

/-! ## Blame -/

/-- What is spelled by something. -/
def SpelledBy {α : Type} (kinds : α → List TokenKind) (ks : List TokenKind) : Prop :=
  ∃ d, kinds d = ks

/-- The error is about a token that is the first one with which nothing in the language goes on. -/
def Blames (language : List TokenKind → Prop) (follow : TokenKind → Prop) (ts : List Token)
    (e : SyntaxError) : Prop :=
  ∃ front t back expected, ts = front ++ t :: back ∧
    e = .unexpectedToken expected t.kind t.position ∧
    (∃ ks, language (front.map Token.kind ++ ks)) ∧
    ∀ ks rest more, language ks → Follows follow rest →
      ks ++ rest ≠ front.map Token.kind ++ t.kind :: more

section blames

variable {language language' : List TokenKind → Prop} {follow follow' : TokenKind → Prop}
  {ts middle : List Token} {kinds : List TokenKind} {e : SyntaxError}

/-- The token at hand is to blame. -/
theorem blames_current {α : Type} {expected : Expectation} (nonempty : ts ≠ [])
    (failed : (unexpected expected ts : Except SyntaxError (α × List Token)) = .error e)
    (some : ∃ ks, language ks)
    (none : ∀ ks rest more, language ks → Follows follow rest →
      ks ++ rest ≠ (current ts).kind :: more) : Blames language follow ts e := by
  obtain ⟨t, back, rfl⟩ := List.exists_cons_of_ne_nil nonempty
  cases failed
  exact ⟨[], t, back, expected, rfl, rfl, some, none⟩

/-- A part is to blame after what has been taken: all that the part can be completed to is part of
the language, and whatever begins with what has been taken goes on with such a part. -/
theorem Blames.after (blames : Blames language' follow' middle e)
    (spelled : Spelled kinds ts middle)
    (into : ∀ ks, language' ks → ∃ more, language (kinds ++ (ks ++ more)))
    (back : ∀ ks rest more, language ks → Follows follow rest →
      ks ++ rest = kinds ++ (current middle).kind :: more →
      ∃ ks' rest', language' ks' ∧ Follows follow' rest' ∧
        ks' ++ rest' = (current middle).kind :: more) : Blames language follow ts e := by
  obtain ⟨front, t, others, expected, rfl, rfl, ⟨ks, viable⟩, none⟩ := blames
  obtain ⟨-, taken, rfl, rfl⟩ := spelled
  refine ⟨taken ++ front, t, others, expected, by rw [List.append_assoc], rfl, ?_, ?_⟩
  · obtain ⟨more, completed⟩ := into _ viable
    refine ⟨ks ++ more, ?_⟩
    simpa only [List.map_append, List.append_assoc] using completed
  · intro ks rest more holds follows same
    obtain ⟨more', is⟩ : ∃ more', front.map Token.kind ++ t.kind :: more =
        (current (front ++ t :: others)).kind :: more' := by
      cases front with
      | nil => exact ⟨more, rfl⟩
      | cons t' front => exact ⟨front.map Token.kind ++ t.kind :: more, rfl⟩
    rw [List.map_append, List.append_assoc, is] at same
    obtain ⟨ks', rest', holds', follows', same'⟩ := back ks rest more' holds follows same
    exact none ks' rest' more holds' follows' (same'.trans is.symm)

/-- A part that comes first is to blame. -/
theorem Blames.first (blames : Blames language' follow' ts e) (ended : Ended ts)
    (into : ∀ ks, language' ks → ∃ more, language (ks ++ more))
    (back : ∀ ks rest more, language ks → Follows follow rest →
      ks ++ rest = (current ts).kind :: more →
      ∃ ks' rest', language' ks' ∧ Follows follow' rest' ∧
        ks' ++ rest' = (current ts).kind :: more) : Blames language follow ts e :=
  blames.after (.nil ended) into back

end blames

/-! ## What is at hand -/

/-- A token is not taken only because it is of another kind. -/
theorem expect_error {k : TokenKind} {expected : Expectation} {ts : List Token} {e : SyntaxError}
    (failed : expect k expected ts = .error e) :
    k ≠ (current ts).kind ∧
      (unexpected expected ts : Except SyntaxError (Unit × List Token)) = .error e := by
  rw [expect] at failed
  split at failed
  · cases failed
  · next other => exact ⟨fun is => other is.symm, failed⟩

theorem literal_kind_ne {ts : List Token} (none : literal ts = none) (value : Constant) :
    value.kind ≠ (current ts).kind := by
  intro is
  rw [literal, ← is] at none
  cases value <;> cases none

/-! ## What may follow -/

/-- Anything may follow. -/
def Anything (_ : TokenKind) : Prop := True

theorem follows_disjunctKinds {rest : List TokenKind} (ds : List Conjunction)
    (follows : Follows EndsRule rest) : Follows EndsOperand (disjunctKinds ds ++ rest) := by
  cases ds with
  | nil =>
    rw [disjunctKinds]
    exact follows.mono fun _ => .inr
  | cons d ds =>
    rw [disjunctKinds]
    exact follows_cons (.inl rfl)

theorem follows_conjunctKinds {rest : List TokenKind} (ds : List Primary)
    (follows : Follows EndsOperand rest) : Follows EndsPrimary (conjunctKinds ds ++ rest) := by
  cases ds with
  | nil =>
    rw [conjunctKinds]
    exact follows.mono fun _ => .inr
  | cons d ds =>
    rw [conjunctKinds]
    exact follows_cons (.inl rfl)

/-- What goes on from a name, if anything does. -/
theorem named_kinds {d : Primary} {name : String} {ks : List TokenKind}
    (is : d.kinds = .ident name :: ks) :
    ks = [] ∨ ks = [.open, .close] ∨
      (∃ (first : Passed) (others : List Passed),
        ks = .open :: (first.kinds ++ argKinds others)) ∨
      ∃ value : Operand, ks = .equal :: value.kinds := by
  match d with
  | .enclosed inner =>
    rw [Primary.kinds] at is
    cases is
  | .name name' =>
    rw [Primary.kinds] at is
    exact .inl (List.cons.inj is).2.symm
  | .call name' [] =>
    rw [Primary.kinds] at is
    exact .inr (.inl (List.cons.inj is).2.symm)
  | .call name' (first :: others) =>
    rw [Primary.kinds] at is
    exact .inr (.inr (.inl ⟨first, others, (List.cons.inj is).2.symm⟩))
  | .comparison name' value =>
    rw [Primary.kinds] at is
    exact .inr (.inr (.inr ⟨value, (List.cons.inj is).2.symm⟩))

/-! ## The parsers, by induction on the budget

Each of them has budget enough for the tokens at hand, so that it does not give up for want of
it. -/

mutual

theorem disjunction_blames (budget : Nat) {ts : List Token} {e : SyntaxError} (ended : Ended ts)
    (enough : 4 * ts.length + 2 ≤ budget) (failed : disjunction budget ts = .error e) :
    Blames (SpelledBy Disjunction.kinds) EndsRule ts e := by
  obtain ⟨budget, rfl⟩ : ∃ b, budget = b + 1 := ⟨budget - 1, by omega⟩
  rw [disjunction] at failed
  rcases bind_eq_error_iff.mp failed with failed | ⟨⟨rule, middle⟩, parsed, failed⟩
  · refine (conjunction_blames budget ended (by omega) failed).first ended ?_ ?_
    · rintro _ ⟨first, rfl⟩
      exact ⟨[], .chain first [], by rw [Disjunction.kinds, disjunctKinds]⟩
    · rintro _ rest more ⟨⟨first, others⟩, rfl⟩ follows same
      rw [Disjunction.kinds, List.append_assoc] at same
      exact ⟨_, _, ⟨first, rfl⟩, follows_disjunctKinds others follows, same⟩
  · rcases conjunction_sound budget ended parsed with ⟨first, rfl, spelled, ends⟩
    have shorter := spelled.length
    dsimp only at failed
    split at failed
    · rcases bind_eq_error_iff.mp failed with failed | ⟨_, -, failed⟩
      · refine (disjuncts_blames budget spelled.1 (by omega) failed).after spelled ?_ ?_
        · rintro _ ⟨others, rfl⟩
          exact ⟨[], .chain first others, by rw [Disjunction.kinds, List.append_nil]⟩
        · rintro _ rest more ⟨⟨first', others⟩, rfl⟩ follows same
          rw [Disjunction.kinds, List.append_assoc] at same
          have ends' := (follows_disjunctKinds others follows).mono fun _ =>
            conjunction_endsAt first'
          rcases conjunction_unique first' first same ends' (follows_cons ends) with ⟨-, sameOthers⟩
          exact ⟨_, rest, ⟨others, rfl⟩, follows, sameOthers⟩
      · cases failed
    · cases failed

theorem disjuncts_blames (budget : Nat) {ts : List Token} {e : SyntaxError} (ended : Ended ts)
    (enough : 4 * ts.length + 1 ≤ budget) (failed : disjuncts budget ts = .error e) :
    Blames (SpelledBy disjunctKinds) EndsRule ts e := by
  obtain ⟨budget, rfl⟩ : ∃ b, budget = b + 1 := ⟨budget - 1, by omega⟩
  rw [disjuncts] at failed
  split at failed
  · next next =>
    have spelledOr : Spelled [.or] ts (advance ts) := .advance ended next (by simp)
    have shorter := spelledOr.length
    rw [List.length_singleton] at shorter
    rcases bind_eq_error_iff.mp failed with failed | ⟨⟨rule, middle⟩, parsed, failed⟩
    · refine (conjunction_blames budget spelledOr.1 (by omega) failed).after spelledOr ?_ ?_
      · rintro _ ⟨first, rfl⟩
        exact ⟨[], [first], by rw [disjunctKinds, disjunctKinds]; rfl⟩
      · rintro _ rest more ⟨operands, rfl⟩ follows same
        cases operands with
        | nil =>
          rw [disjunctKinds] at same
          exact absurd rfl (follows _ _ same).ne_or
        | cons first others =>
          rw [disjunctKinds, List.cons_append, List.append_assoc] at same
          exact ⟨_, _, ⟨first, rfl⟩, follows_disjunctKinds others follows, (List.cons.inj same).2⟩
    · rcases conjunction_sound budget spelledOr.1 parsed with ⟨first, rfl, spelled, ends⟩
      have shorter' := spelled.length
      rcases bind_eq_error_iff.mp failed with failed | ⟨_, -, failed⟩
      · have spelledBoth := spelledOr.cons spelled
        refine (disjuncts_blames budget spelled.1 (by omega) failed).after spelledBoth ?_ ?_
        · rintro _ ⟨others, rfl⟩
          exact ⟨[], first :: others, by rw [disjunctKinds, List.append_nil]; rfl⟩
        · rintro _ rest more ⟨operands, rfl⟩ follows same
          cases operands with
          | nil =>
            rw [disjunctKinds] at same
            exact absurd rfl (follows _ _ same).ne_or
          | cons first' others =>
            rw [disjunctKinds, List.cons_append, List.append_assoc] at same
            have ends' := (follows_disjunctKinds others follows).mono fun _ =>
              conjunction_endsAt first'
            rcases conjunction_unique first' first (List.cons.inj same).2 ends' (follows_cons ends)
              with ⟨-, sameOthers⟩
            exact ⟨_, rest, ⟨others, rfl⟩, follows, sameOthers⟩
      · cases failed
  · cases failed

theorem conjunction_blames (budget : Nat) {ts : List Token} {e : SyntaxError} (ended : Ended ts)
    (enough : 4 * ts.length + 1 ≤ budget) (failed : conjunction budget ts = .error e) :
    Blames (SpelledBy Conjunction.kinds) EndsOperand ts e := by
  obtain ⟨budget, rfl⟩ : ∃ b, budget = b + 1 := ⟨budget - 1, by omega⟩
  rw [conjunction] at failed
  rcases bind_eq_error_iff.mp failed with failed | ⟨⟨rule, middle⟩, parsed, failed⟩
  · refine (primary_blames budget ended (by omega) failed).first ended ?_ ?_
    · rintro _ ⟨first, rfl⟩
      exact ⟨[], .chain first [], by rw [Conjunction.kinds, conjunctKinds]⟩
    · rintro _ rest more ⟨⟨first, others⟩, rfl⟩ follows same
      rw [Conjunction.kinds, List.append_assoc] at same
      exact ⟨_, _, ⟨first, rfl⟩, follows_conjunctKinds others follows, same⟩
  · rcases primary_sound budget ended parsed with ⟨first, rfl, spelled, ends⟩
    have shorter := spelled.length
    dsimp only at failed
    split at failed
    · rcases bind_eq_error_iff.mp failed with failed | ⟨_, -, failed⟩
      · refine (conjuncts_blames budget spelled.1 (by omega) failed).after spelled ?_ ?_
        · rintro _ ⟨others, rfl⟩
          exact ⟨[], .chain first others, by rw [Conjunction.kinds, List.append_nil]⟩
        · rintro _ rest more ⟨⟨first', others⟩, rfl⟩ follows same
          rw [Conjunction.kinds, List.append_assoc] at same
          have ends' := (follows_conjunctKinds others follows).mono fun _ => primary_endsAt first'
          rcases primary_unique first' first same ends' (follows_cons ends) with ⟨-, sameOthers⟩
          exact ⟨_, rest, ⟨others, rfl⟩, follows, sameOthers⟩
      · cases failed
    · cases failed

theorem conjuncts_blames (budget : Nat) {ts : List Token} {e : SyntaxError} (ended : Ended ts)
    (enough : 4 * ts.length ≤ budget) (failed : conjuncts budget ts = .error e) :
    Blames (SpelledBy conjunctKinds) EndsOperand ts e := by
  have some := ended.length_pos
  obtain ⟨budget, rfl⟩ : ∃ b, budget = b + 1 := ⟨budget - 1, by omega⟩
  rw [conjuncts] at failed
  split at failed
  · next next =>
    have spelledAnd : Spelled [.and] ts (advance ts) := .advance ended next (by simp)
    have shorter := spelledAnd.length
    rw [List.length_singleton] at shorter
    rcases bind_eq_error_iff.mp failed with failed | ⟨⟨rule, middle⟩, parsed, failed⟩
    · refine (primary_blames budget spelledAnd.1 (by omega) failed).after spelledAnd ?_ ?_
      · rintro _ ⟨first, rfl⟩
        exact ⟨[], [first], by rw [conjunctKinds, conjunctKinds]; rfl⟩
      · rintro _ rest more ⟨operands, rfl⟩ follows same
        cases operands with
        | nil =>
          rw [conjunctKinds] at same
          exact absurd rfl (follows _ _ same).ne_and
        | cons first others =>
          rw [conjunctKinds, List.cons_append, List.append_assoc] at same
          exact ⟨_, _, ⟨first, rfl⟩, follows_conjunctKinds others follows, (List.cons.inj same).2⟩
    · rcases primary_sound budget spelledAnd.1 parsed with ⟨first, rfl, spelled, ends⟩
      have shorter' := spelled.length
      rcases bind_eq_error_iff.mp failed with failed | ⟨_, -, failed⟩
      · have spelledBoth := spelledAnd.cons spelled
        refine (conjuncts_blames budget spelled.1 (by omega) failed).after spelledBoth ?_ ?_
        · rintro _ ⟨others, rfl⟩
          exact ⟨[], first :: others, by rw [conjunctKinds, List.append_nil]; rfl⟩
        · rintro _ rest more ⟨operands, rfl⟩ follows same
          cases operands with
          | nil =>
            rw [conjunctKinds] at same
            exact absurd rfl (follows _ _ same).ne_and
          | cons first' others =>
            rw [conjunctKinds, List.cons_append, List.append_assoc] at same
            have ends' := (follows_conjunctKinds others follows).mono fun _ => primary_endsAt first'
            rcases primary_unique first' first (List.cons.inj same).2 ends' (follows_cons ends)
              with ⟨-, sameOthers⟩
            exact ⟨_, rest, ⟨others, rfl⟩, follows, sameOthers⟩
      · cases failed
  · cases failed

theorem primary_blames (budget : Nat) {ts : List Token} {e : SyntaxError} (ended : Ended ts)
    (enough : 4 * ts.length ≤ budget) (failed : primary budget ts = .error e) :
    Blames (SpelledBy Primary.kinds) EndsPrimary ts e := by
  have some := ended.length_pos
  obtain ⟨budget, rfl⟩ : ∃ b, budget = b + 1 := ⟨budget - 1, by omega⟩
  rw [primary] at failed
  split at failed
  · next kind =>
    have spelledOpen : Spelled [.open] ts (advance ts) := .advance ended kind (by simp)
    have shorter := spelledOpen.length
    rw [List.length_singleton] at shorter
    refine (enclosed_blames budget spelledOpen.1 (by omega) failed).after spelledOpen ?_ ?_
    · rintro _ ⟨inner, rfl⟩
      exact ⟨[], .enclosed inner, by rw [Primary.kinds, List.append_nil]; rfl⟩
    · rintro _ rest more ⟨d, rfl⟩ - same
      match d with
      | .enclosed inner =>
        rw [Primary.kinds] at same
        exact ⟨_, rest, ⟨inner, rfl⟩, fun _ _ _ => trivial, (List.cons.inj same).2⟩
      | .name _ | .call _ [] | .call _ (_ :: _) | .comparison _ _ =>
        rw [Primary.kinds] at same
        cases same
  · next name kind =>
    have spelledName : Spelled [.ident name] ts (advance ts) := .advance ended kind (by simp)
    have shorter := spelledName.length
    rw [List.length_singleton] at shorter
    refine (named_blames budget spelledName.1 (by omega) failed).after spelledName ?_ ?_
    · rintro ks spelled
      exact ⟨[], by rwa [List.append_nil]⟩
    · rintro ks rest more spelled follows same
      obtain ⟨d, rfl⟩ := spelled
      obtain ⟨k, ks, kinds, -⟩ := primary_starts d
      rw [kinds] at same
      obtain ⟨rfl, sameRest⟩ := List.cons.inj same
      exact ⟨ks, rest, ⟨d, kinds⟩, follows, sameRest⟩
  · next no_open no_name =>
    refine blames_current ended.ne_nil failed ⟨_, .name "", rfl⟩ ?_
    rintro _ rest more ⟨d, rfl⟩ - same
    obtain ⟨k, ks, kinds, starts⟩ := primary_starts d
    rw [kinds] at same
    obtain ⟨rfl, -⟩ := List.cons.inj same
    rcases starts with is | ⟨name, is⟩
    · exact no_open is
    · exact no_name name is

theorem enclosed_blames (budget : Nat) {ts : List Token} {e : SyntaxError} (ended : Ended ts)
    (enough : 4 * ts.length + 3 ≤ budget) (failed : enclosed budget ts = .error e) :
    Blames (SpelledBy fun d : Disjunction => d.kinds ++ [.close]) Anything ts e := by
  obtain ⟨budget, rfl⟩ : ∃ b, budget = b + 1 := ⟨budget - 1, by omega⟩
  rw [enclosed] at failed
  rcases bind_eq_error_iff.mp failed with failed | ⟨⟨rule, middle⟩, parsed, failed⟩
  · refine (disjunction_blames budget ended (by omega) failed).first ended ?_ ?_
    · rintro _ ⟨inner, rfl⟩
      exact ⟨[.close], inner, rfl⟩
    · rintro _ rest more ⟨inner, rfl⟩ - same
      rw [List.append_assoc] at same
      exact ⟨_, _, ⟨inner, rfl⟩, follows_cons (.inl rfl), same⟩
  · rcases disjunction_sound budget ended parsed with ⟨inner, rfl, spelled, ends⟩
    rcases bind_eq_error_iff.mp failed with failed | ⟨_, -, failed⟩
    · obtain ⟨other, failed⟩ := expect_error failed
      have blames : Blames (· = [.close]) Anything middle e := by
        refine blames_current spelled.1.ne_nil failed ⟨_, rfl⟩ ?_
        rintro _ rest more rfl - same
        exact other (List.cons.inj same).1
      refine blames.after spelled ?_ ?_
      · rintro _ rfl
        exact ⟨[], inner, rfl⟩
      · rintro _ rest more ⟨inner', rfl⟩ - same
        rw [List.append_assoc] at same
        have ends' : Follows inner'.EndsAt ([.close] ++ rest) :=
          follows_cons (disjunction_endsAt inner' (.inl rfl))
        rcases disjunction_unique inner' inner same ends' (follows_cons ends) with ⟨-, sameClose⟩
        exact ⟨_, rest, rfl, fun _ _ _ => trivial, sameClose⟩
    · cases failed

theorem named_blames (budget : Nat) {name : String} {ts : List Token} {e : SyntaxError}
    (ended : Ended ts) (enough : 4 * ts.length + 3 ≤ budget)
    (failed : named budget name ts = .error e) :
    Blames (fun ks => SpelledBy Primary.kinds (.ident name :: ks)) EndsPrimary ts e := by
  obtain ⟨budget, rfl⟩ : ∃ b, budget = b + 1 := ⟨budget - 1, by omega⟩
  rw [named] at failed
  split at failed
  · next kind =>
    have spelledOpen : Spelled [.open] ts (advance ts) := .advance ended kind (by simp)
    have shorter := spelledOpen.length
    rw [List.length_singleton] at shorter
    dsimp only at failed
    split at failed
    · cases failed
    · next no_close =>
      rcases bind_eq_error_iff.mp failed with failed | ⟨_, -, failed⟩
      · refine (arguments_blames budget spelledOpen.1 (by omega) failed).after spelledOpen ?_ ?_
        · rintro _ ⟨⟨first, others⟩, rfl⟩
          exact ⟨[], .call name (first :: others), by rw [Primary.kinds, List.append_nil]; rfl⟩
        · rintro ks rest more ⟨d, kinds⟩ follows same
          rcases named_kinds kinds with rfl | rfl | ⟨first, others, rfl⟩ | ⟨value, rfl⟩
          · exact absurd rfl (follows _ _ same).ne_open
          · obtain ⟨is, -⟩ := List.cons.inj (List.cons.inj same).2
            exact absurd is.symm no_close
          · exact ⟨_, rest, ⟨(first, others), rfl⟩, fun _ _ _ => trivial, (List.cons.inj same).2⟩
          · cases same
      · cases failed
  · next kind =>
    have spelledEqual : Spelled [.equal] ts (advance ts) := .advance ended kind (by simp)
    have shorter := spelledEqual.length
    rw [List.length_singleton] at shorter
    rcases bind_eq_error_iff.mp failed with failed | ⟨_, -, failed⟩
    · refine (comparand_blames budget spelledEqual.1 (by omega) failed).after spelledEqual ?_ ?_
      · rintro _ ⟨value, rfl⟩
        exact ⟨[], .comparison name value, by rw [Primary.kinds, List.append_nil]; rfl⟩
      · rintro ks rest more ⟨d, kinds⟩ follows same
        rcases named_kinds kinds with rfl | rfl | ⟨first, others, rfl⟩ | ⟨value, rfl⟩
        · exact absurd rfl (follows _ _ same).ne_equal
        · cases same
        · cases same
        · exact ⟨_, rest, ⟨value, rfl⟩, fun _ _ _ => trivial, (List.cons.inj same).2⟩
    · cases failed
  · cases failed

theorem arguments_blames (budget : Nat) {ts : List Token} {e : SyntaxError} (ended : Ended ts)
    (enough : 4 * ts.length + 4 ≤ budget) (failed : arguments budget ts = .error e) :
    Blames (SpelledBy fun args : Passed × List Passed => args.1.kinds ++ argKinds args.2)
      Anything ts e := by
  obtain ⟨budget, rfl⟩ : ∃ b, budget = b + 1 := ⟨budget - 1, by omega⟩
  rw [arguments] at failed
  rcases bind_eq_error_iff.mp failed with failed | ⟨⟨arg, middle⟩, parsed, failed⟩
  · refine (argument_blames budget ended (by omega) failed).first ended ?_ ?_
    · rintro _ ⟨first, rfl⟩
      exact ⟨argKinds [], (first, []), rfl⟩
    · rintro _ rest more ⟨⟨first, others⟩, rfl⟩ - same
      rw [List.append_assoc] at same
      exact ⟨_, _, ⟨first, rfl⟩, follows_argKinds others, same⟩
  · rcases argument_sound budget ended parsed with ⟨first, rfl, spelled, ends⟩
    have shorter := spelled.length
    have blames : Blames (SpelledBy argKinds) Anything middle e := by
      dsimp only at failed
      split at failed
      · next comma =>
        have spelledComma : Spelled [.comma] middle (advance middle) :=
          .advance spelled.1 comma (by simp)
        have shorter' := spelledComma.length
        rw [List.length_singleton] at shorter'
        rcases bind_eq_error_iff.mp failed with failed | ⟨_, -, failed⟩
        · refine (arguments_blames budget spelledComma.1 (by omega) failed).after spelledComma ?_ ?_
          · rintro _ ⟨⟨second, others⟩, rfl⟩
            exact ⟨[], second :: others, by rw [argKinds, List.append_nil]; rfl⟩
          · rintro _ rest more ⟨args, rfl⟩ - same
            match args with
            | [] =>
              rw [argKinds] at same
              cases same
            | second :: others =>
              rw [argKinds] at same
              exact ⟨_, rest, ⟨(second, others), rfl⟩, fun _ _ _ => trivial,
                (List.cons.inj same).2⟩
        · cases failed
      · next no_comma =>
        rcases bind_eq_error_iff.mp failed with failed | ⟨_, -, failed⟩
        · obtain ⟨no_close, failed⟩ := expect_error failed
          refine blames_current spelled.1.ne_nil failed ⟨_, [], rfl⟩ ?_
          rintro _ rest more ⟨args, rfl⟩ - same
          match args with
          | [] =>
            rw [argKinds] at same
            exact no_close (List.cons.inj same).1
          | second :: others =>
            rw [argKinds] at same
            exact no_comma (List.cons.inj same).1.symm
        · cases failed
    refine blames.after spelled ?_ ?_
    · rintro _ ⟨others, rfl⟩
      exact ⟨[], (first, others), by rw [List.append_nil]⟩
    · rintro _ rest more ⟨⟨first', others⟩, rfl⟩ - same
      rw [List.append_assoc] at same
      have ends' : Follows first'.EndsAt (argKinds others ++ rest) :=
        (follows_argKinds others).mono fun _ => arg_endsAt first'
      rcases arg_unique first' first same ends' (follows_cons ends) with ⟨-, sameOthers⟩
      exact ⟨_, rest, ⟨others, rfl⟩, fun _ _ _ => trivial, sameOthers⟩

theorem argument_blames (budget : Nat) {ts : List Token} {e : SyntaxError} (ended : Ended ts)
    (enough : 4 * ts.length + 3 ≤ budget) (failed : argument budget ts = .error e) :
    Blames (SpelledBy Passed.kinds) EndsRule ts e := by
  obtain ⟨budget, rfl⟩ : ∃ b, budget = b + 1 := ⟨budget - 1, by omega⟩
  rw [argument] at failed
  split at failed
  · cases failed
  · next no_literal =>
    rcases bind_eq_error_iff.mp failed with failed | ⟨_, -, failed⟩
    · refine (disjunction_blames budget ended (by omega) failed).first ended ?_ ?_
      · rintro _ ⟨inner, rfl⟩
        exact ⟨[], .rule inner, by rw [Passed.kinds, List.append_nil]⟩
      · rintro _ rest more ⟨arg, rfl⟩ follows same
        cases arg with
        | literal value =>
          rw [Passed.kinds] at same
          exact absurd (List.cons.inj same).1 (literal_kind_ne no_literal value)
        | rule inner =>
          rw [Passed.kinds] at same
          exact ⟨_, rest, ⟨inner, rfl⟩, follows, same⟩
    · cases failed

theorem comparand_blames (budget : Nat) {ts : List Token} {e : SyntaxError} (ended : Ended ts)
    (enough : 4 * ts.length + 1 ≤ budget) (failed : comparand budget ts = .error e) :
    Blames (SpelledBy Operand.kinds) Anything ts e := by
  obtain ⟨budget, rfl⟩ : ∃ b, budget = b + 1 := ⟨budget - 1, by omega⟩
  rw [comparand] at failed
  split at failed
  · cases failed
  · next no_literal =>
    split at failed
    · cases failed
    · next kind =>
      have spelledOpen : Spelled [.open] ts (advance ts) := .advance ended kind (by simp)
      have shorter := spelledOpen.length
      rw [List.length_singleton] at shorter
      rcases bind_eq_error_iff.mp failed with failed | ⟨_, -, failed⟩
      · refine (enclosed_blames budget spelledOpen.1 (by omega) failed).after spelledOpen ?_ ?_
        · rintro _ ⟨inner, rfl⟩
          exact ⟨[], .enclosed inner, by rw [Operand.kinds, List.append_nil]; rfl⟩
        · rintro _ rest more ⟨value, rfl⟩ - same
          cases value with
          | literal value =>
            rw [Operand.kinds] at same
            exact absurd ((List.cons.inj same).1.trans kind.symm) (literal_kind_ne no_literal value)
          | name name =>
            rw [Operand.kinds] at same
            cases same
          | enclosed inner =>
            rw [Operand.kinds] at same
            exact ⟨_, rest, ⟨inner, rfl⟩, fun _ _ _ => trivial, (List.cons.inj same).2⟩
      · cases failed
    · next no_name no_open =>
      refine blames_current ended.ne_nil failed ⟨_, .name "", rfl⟩ ?_
      rintro _ rest more ⟨value, rfl⟩ - same
      cases value with
      | literal value =>
        rw [Operand.kinds] at same
        exact literal_kind_ne no_literal value (List.cons.inj same).1
      | name name =>
        rw [Operand.kinds] at same
        exact no_name name (List.cons.inj same).1.symm
      | enclosed inner =>
        rw [Operand.kinds] at same
        exact no_open (List.cons.inj same).1.symm

end

end RecordRules.Parse

/-! ## The whole rule -/

namespace RecordRules

open RecordRules.Derivation

/-- An unexpected token that the parser reports is the first one that no rule could have: the
tokens before it begin a rule, and together with it they begin none, the ending counting as a
token. -/
theorem unexpectedToken_is_first_impossible {body : List Token} {last : Token}
    (ending : last.kind = .ending) {expected : Expectation} {found : TokenKind} {position : Nat}
    (failed : Expr.ofTokens (body ++ [last]) = .error (.unexpectedToken expected found position)) :
    ∃ front t back, body ++ [last] = front ++ t :: back ∧
      t.kind = found ∧ t.position = position ∧
      (∃ d : Disjunction, front.map Token.kind <+: d.kinds) ∧
      ∀ d : Disjunction, ¬ (front ++ [t]).map Token.kind <+: d.kinds ++ [.ending] := by
  have ended := ended_append body ending
  rw [Expr.ofTokens] at failed
  split at failed
  · cases failed
  · rcases bind_eq_error_iff.mp failed with failed | ⟨⟨rule, rest⟩, parsed, failed⟩
    · have enough : 4 * (body ++ [last]).length + 2 ≤ Parse.budgetFor (body ++ [last]) := by
        rw [Parse.budgetFor]
        omega
      obtain ⟨front, t, back, _, split, is, ⟨ks, d, kinds⟩, none⟩ :=
        Parse.disjunction_blames _ ended enough failed
      cases is
      refine ⟨front, t, back, split, rfl, rfl, ⟨d, ks, kinds.symm⟩, ?_⟩
      rintro d' ⟨more, same⟩
      rw [List.map_append, List.append_assoc] at same
      exact none _ [.ending] more ⟨d', rfl⟩ (Parse.follows_cons (.inr (.inr rfl))) same.symm
    · obtain ⟨d, rfl, ⟨ended', taken, split, kinds⟩, ends⟩ := Parse.disjunction_sound _ ended parsed
      rcases bind_eq_error_iff.mp failed with failed | ⟨_, -, failed⟩
      · obtain ⟨other, failed⟩ := Parse.expect_error failed
        obtain ⟨t, back, rfl⟩ := List.exists_cons_of_ne_nil ended'.ne_nil
        cases failed
        refine ⟨taken, t, back, split, rfl, rfl, ⟨d, kinds ▸ List.prefix_rfl⟩, ?_⟩
        rintro d' ⟨more, same⟩
        rw [List.map_append, List.append_assoc, kinds] at same
        have ends' : Parse.Follows d'.EndsAt [.ending] :=
          Parse.follows_cons (Parse.disjunction_endsAt d' (.inr (.inr rfl)))
        obtain ⟨-, sameEnding⟩ :=
          Parse.disjunction_unique d' d same.symm ends' (Parse.follows_cons ends)
        exact other (List.cons.inj sameEnding).1
      · cases failed

/-- In `a || )` it is the parenthesis: `a ||` begins a rule, and `a || )` does not. -/
theorem close_after_or_is_impossible :
    (Token.mk .ending 6).kind = .ending ∧
    Expr.ofTokens ([⟨.ident "a", 0⟩, ⟨.or, 2⟩, ⟨.close, 5⟩] ++ [⟨.ending, 6⟩]) =
      .error (.unexpectedToken .operand .close 5) ∧
    ∃ front t back,
      [⟨.ident "a", 0⟩, ⟨.or, 2⟩, ⟨.close, 5⟩] ++ [⟨.ending, 6⟩] = front ++ t :: back ∧
      t.kind = .close ∧ t.position = 5 ∧
      (∃ d : Disjunction, front.map Token.kind <+: d.kinds) ∧
      ∀ d : Disjunction, ¬ (front ++ [t]).map Token.kind <+: d.kinds ++ [.ending] :=
  ⟨rfl, rfl, unexpectedToken_is_first_impossible rfl rfl⟩

end RecordRules

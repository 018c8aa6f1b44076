import RecordRules.Proofs.Rule.Parse.Complete
import RecordRules.Proofs.Rule.Parse.Sound

/-!
# The calls of a parser

Parsers call one another, and a loop over operands or arguments is a call that comes back to itself.
`Makes` says which calls a call makes before it gives its answer, and `run_congr` that the answer
depends on those calls alone, so that none is left out.

Each of them is lighter than the call that makes it (`weight_of_makes`): either it is given fewer
tokens, or it stands lower among the parsers that are called for the same ones.  So calls are
not nested as deep as the first of them weighs (`Reaches.depth_lt`), and a budget of that weight is
not used up and makes no difference to the answer (`run_of_weight_le`).
-/

namespace RecordRules.Parse

open RecordRules.Derivation

/-! ## Calls -/

/-- A call of one of the parsers, with the tokens that it is given. -/
inductive Call where
  | disjunction (ts : List Token)
  | disjuncts (ts : List Token)
  | conjunction (ts : List Token)
  | conjuncts (ts : List Token)
  | primary (ts : List Token)
  | enclosed (ts : List Token)
  | named (name : String) (ts : List Token)
  | arguments (ts : List Token)
  | argument (ts : List Token)
  | comparand (ts : List Token)

namespace Call

/-- The tokens still to be read. -/
def tokens : Call → List Token
  | disjunction ts | disjuncts ts | conjunction ts | conjuncts ts | primary ts | enclosed ts
  | named _ ts | arguments ts | argument ts | comparand ts => ts

/-- What the parser gives for the tokens that it takes. -/
def Answer : Call → Type
  | disjunction _ | conjunction _ | primary _ | enclosed _ | named _ _ => Expr
  | disjuncts _ | conjuncts _ => List Expr
  | arguments _ => List ArgExpr
  | argument _ | comparand _ => ArgExpr

/-- The call on a budget. -/
def run (budget : Nat) : (c : Call) → Except SyntaxError (c.Answer × List Token)
  | disjunction ts => Parse.disjunction budget ts
  | disjuncts ts => Parse.disjuncts budget ts
  | conjunction ts => Parse.conjunction budget ts
  | conjuncts ts => Parse.conjuncts budget ts
  | primary ts => Parse.primary budget ts
  | enclosed ts => Parse.enclosed budget ts
  | named name ts => Parse.named budget name ts
  | arguments ts => Parse.arguments budget ts
  | argument ts => Parse.argument budget ts
  | comparand ts => Parse.comparand budget ts

/-- The parser reads something from its first token on, and not only what may follow an operand or
a name. -/
def Begins : Call → Prop
  | disjuncts _ | conjuncts _ | named _ _ => False
  | _ => True

/-- How high a parser stands among those that call one another for the same tokens. -/
def rank : Call → Nat
  | disjuncts _ | conjuncts _ | primary _ | named _ _ | comparand _ => 0
  | conjunction _ => 1
  | disjunction _ => 2
  | enclosed _ | argument _ => 3
  | arguments _ => 4

/-- A bound on how deep calls nest in a call.  For the same tokens they go down in rank, and a token
weighs more than any rank. -/
def weight (c : Call) : Nat :=
  5 * c.tokens.length + c.rank

end Call

/-- A call, with the budget that is left for others, makes another call. -/
inductive Makes (budget : Nat) : Call → Call → Prop
  | firstDisjunct {ts : List Token} : Makes budget (.disjunction ts) (.conjunction ts)
  | otherDisjuncts {ts rest : List Token} {first : Expr} :
    conjunction budget ts = .ok (first, rest) → (current rest).kind = .or →
    Makes budget (.disjunction ts) (.disjuncts rest)
  | nextDisjunct {ts : List Token} : (current ts).kind = .or →
    Makes budget (.disjuncts ts) (.conjunction (advance ts))
  | laterDisjuncts {ts rest : List Token} {next : Expr} : (current ts).kind = .or →
    conjunction budget (advance ts) = .ok (next, rest) →
    Makes budget (.disjuncts ts) (.disjuncts rest)
  | firstConjunct {ts : List Token} : Makes budget (.conjunction ts) (.primary ts)
  | otherConjuncts {ts rest : List Token} {first : Expr} :
    primary budget ts = .ok (first, rest) → (current rest).kind = .and →
    Makes budget (.conjunction ts) (.conjuncts rest)
  | nextConjunct {ts : List Token} : (current ts).kind = .and →
    Makes budget (.conjuncts ts) (.primary (advance ts))
  | laterConjuncts {ts rest : List Token} {next : Expr} : (current ts).kind = .and →
    primary budget (advance ts) = .ok (next, rest) →
    Makes budget (.conjuncts ts) (.conjuncts rest)
  | group {ts : List Token} : (current ts).kind = .open →
    Makes budget (.primary ts) (.enclosed (advance ts))
  | afterName {ts : List Token} {name : String} : (current ts).kind = .ident name →
    Makes budget (.primary ts) (.named name (advance ts))
  | inGroup {ts : List Token} : Makes budget (.enclosed ts) (.disjunction ts)
  | allArguments {ts : List Token} {name : String} : (current ts).kind = .open →
    (current (advance ts)).kind ≠ .close →
    Makes budget (.named name ts) (.arguments (advance ts))
  | compared {ts : List Token} {name : String} : (current ts).kind = .equal →
    Makes budget (.named name ts) (.comparand (advance ts))
  | firstArgument {ts : List Token} : Makes budget (.arguments ts) (.argument ts)
  | otherArguments {ts rest : List Token} {first : ArgExpr} :
    argument budget ts = .ok (first, rest) → (current rest).kind = .comma →
    Makes budget (.arguments ts) (.arguments (advance rest))
  | passedRule {ts : List Token} : literal ts = none →
    Makes budget (.argument ts) (.disjunction ts)
  | comparedGroup {ts : List Token} : literal ts = none → (current ts).kind = .open →
    Makes budget (.comparand ts) (.enclosed (advance ts))

/-- A call on one budget leads, by calls that make others, to a call on what is left of it. -/
inductive Reaches : Nat → Call → Nat → Call → Prop
  | here {budget : Nat} {c : Call} : Reaches budget c budget c
  | through {budget left : Nat} {c made d : Call} : Makes budget c made →
    Reaches budget made left d → Reaches (budget + 1) c left d

/-- A call, with the budget that is left for others, looks at the first of these tokens: of those
that it is given, of those that a call it makes leaves, or of those after the parenthesis that opens
arguments. -/
inductive Looks (budget : Nat) : Call → List Token → Prop
  | given {c : Call} : Looks budget c c.tokens
  | left {c made : Call} {answer : made.Answer} {rest : List Token} : Makes budget c made →
    made.run budget = .ok (answer, rest) → Looks budget c rest
  | opened {ts : List Token} {name : String} : (current ts).kind = .open →
    Looks budget (.named name ts) (advance ts)

section calls

variable {budget budget' left p : Nat} {c d made : Call} {ts rest : List Token}

/-! ## What a call depends on -/

/-- What follows a step counts only for what the step gives. -/
theorem bind_congr_of_ok {α β : Type} {x : Except SyntaxError α}
    {next next' : α → Except SyntaxError β} (same : ∀ a, x = .ok a → next a = next' a) :
    x >>= next = x >>= next' := by
  cases x with
  | error e => rfl
  | ok a => exact same a rfl

/-- The calls that a call makes give the same answers on two budgets. -/
def MadeAlike (budget budget' : Nat) (c : Call) : Prop :=
  ∀ made, Makes budget c made → made.run budget = made.run budget'

theorem disjunction_congr (same : MadeAlike budget budget' (.disjunction ts)) :
    disjunction (budget + 1) ts = disjunction (budget' + 1) ts := by
  have first : conjunction budget ts = conjunction budget' ts := same _ .firstDisjunct
  rw [disjunction, disjunction, ← first]
  refine bind_congr_of_ok fun answer parsed => ?_
  obtain ⟨operand, rest⟩ := answer
  dsimp only
  split
  · next goes =>
    have others : disjuncts budget rest = disjuncts budget' rest :=
      same _ (.otherDisjuncts parsed goes)
    rw [others]
  · rfl

theorem disjuncts_congr (same : MadeAlike budget budget' (.disjuncts ts)) :
    disjuncts (budget + 1) ts = disjuncts (budget' + 1) ts := by
  rw [disjuncts, disjuncts]
  split
  · next goes =>
    have next : conjunction budget (advance ts) = conjunction budget' (advance ts) :=
      same _ (.nextDisjunct goes)
    rw [← next]
    refine bind_congr_of_ok fun answer parsed => ?_
    obtain ⟨operand, rest⟩ := answer
    have later : disjuncts budget rest = disjuncts budget' rest :=
      same _ (.laterDisjuncts goes parsed)
    dsimp only
    rw [later]
  · rfl

theorem conjunction_congr (same : MadeAlike budget budget' (.conjunction ts)) :
    conjunction (budget + 1) ts = conjunction (budget' + 1) ts := by
  have first : primary budget ts = primary budget' ts := same _ .firstConjunct
  rw [conjunction, conjunction, ← first]
  refine bind_congr_of_ok fun answer parsed => ?_
  obtain ⟨operand, rest⟩ := answer
  dsimp only
  split
  · next goes =>
    have others : conjuncts budget rest = conjuncts budget' rest :=
      same _ (.otherConjuncts parsed goes)
    rw [others]
  · rfl

theorem conjuncts_congr (same : MadeAlike budget budget' (.conjuncts ts)) :
    conjuncts (budget + 1) ts = conjuncts (budget' + 1) ts := by
  rw [conjuncts, conjuncts]
  split
  · next goes =>
    have next : primary budget (advance ts) = primary budget' (advance ts) :=
      same _ (.nextConjunct goes)
    rw [← next]
    refine bind_congr_of_ok fun answer parsed => ?_
    obtain ⟨operand, rest⟩ := answer
    have later : conjuncts budget rest = conjuncts budget' rest :=
      same _ (.laterConjuncts goes parsed)
    dsimp only
    rw [later]
  · rfl

theorem primary_congr (same : MadeAlike budget budget' (.primary ts)) :
    primary (budget + 1) ts = primary (budget' + 1) ts := by
  rw [primary, primary]
  split
  · next kind => exact same _ (.group kind)
  · next name kind => exact same _ (.afterName kind)
  · rfl

theorem enclosed_congr (same : MadeAlike budget budget' (.enclosed ts)) :
    enclosed (budget + 1) ts = enclosed (budget' + 1) ts := by
  have inner : disjunction budget ts = disjunction budget' ts := same _ .inGroup
  rw [enclosed, enclosed, inner]

theorem named_congr {name : String} (same : MadeAlike budget budget' (.named name ts)) :
    named (budget + 1) name ts = named (budget' + 1) name ts := by
  rw [named, named]
  split
  · next kind =>
    dsimp only
    split
    · rfl
    · next more =>
      have all : arguments budget (advance ts) = arguments budget' (advance ts) :=
        same _ (.allArguments kind more)
      rw [all]
  · next kind =>
    have value : comparand budget (advance ts) = comparand budget' (advance ts) :=
      same _ (.compared kind)
    rw [value]
  · rfl

theorem arguments_congr (same : MadeAlike budget budget' (.arguments ts)) :
    arguments (budget + 1) ts = arguments (budget' + 1) ts := by
  have first : argument budget ts = argument budget' ts := same _ .firstArgument
  rw [arguments, arguments, ← first]
  refine bind_congr_of_ok fun answer parsed => ?_
  obtain ⟨arg, rest⟩ := answer
  dsimp only
  split
  · next goes =>
    have others : arguments budget (advance rest) = arguments budget' (advance rest) :=
      same _ (.otherArguments parsed goes)
    rw [others]
  · rfl

theorem argument_congr (same : MadeAlike budget budget' (.argument ts)) :
    argument (budget + 1) ts = argument (budget' + 1) ts := by
  rw [argument, argument]
  split
  · rfl
  · next none =>
    have rule : disjunction budget ts = disjunction budget' ts := same _ (.passedRule none)
    rw [rule]

theorem comparand_congr (same : MadeAlike budget budget' (.comparand ts)) :
    comparand (budget + 1) ts = comparand (budget' + 1) ts := by
  rw [comparand, comparand]
  split
  · rfl
  · next none =>
    split
    · rfl
    · next kind =>
      have inner : enclosed budget (advance ts) = enclosed budget' (advance ts) :=
        same _ (.comparedGroup none kind)
      rw [inner]
    · rfl

/-- The answer of a call depends on those of the calls that it makes and on no others. -/
theorem run_congr (same : ∀ made, Makes budget c made → made.run budget = made.run budget') :
    c.run (budget + 1) = c.run (budget' + 1) := by
  cases c with
  | disjunction ts => exact disjunction_congr same
  | disjuncts ts => exact disjuncts_congr same
  | conjunction ts => exact conjunction_congr same
  | conjuncts ts => exact conjuncts_congr same
  | primary ts => exact primary_congr same
  | enclosed ts => exact enclosed_congr same
  | named name ts => exact named_congr same
  | arguments ts => exact arguments_congr same
  | argument ts => exact argument_congr same
  | comparand ts => exact comparand_congr same

/-! ## What a call takes -/

/-- A call that gives an answer has gone on in the tokens, and past the first of them if it begins
with it. -/
theorem spelled_of_run {answer : c.Answer} (ended : Ended c.tokens)
    (parsed : c.run budget = .ok (answer, rest)) :
    ∃ kinds, Spelled kinds c.tokens rest ∧ (c.Begins → kinds ≠ []) := by
  cases c with
  | disjunction ts =>
    obtain ⟨d, -, spelled, -⟩ := disjunction_sound budget ended parsed
    obtain ⟨k, ks, starts, -⟩ := disjunction_starts d
    exact ⟨_, spelled, fun _ => by simp [starts]⟩
  | disjuncts ts =>
    obtain ⟨ds, -, spelled, -⟩ := disjuncts_sound budget ended parsed
    exact ⟨_, spelled, False.elim⟩
  | conjunction ts =>
    obtain ⟨d, -, spelled, -⟩ := conjunction_sound budget ended parsed
    obtain ⟨k, ks, starts, -⟩ := conjunction_starts d
    exact ⟨_, spelled, fun _ => by simp [starts]⟩
  | conjuncts ts =>
    obtain ⟨ds, -, spelled, -⟩ := conjuncts_sound budget ended parsed
    exact ⟨_, spelled, False.elim⟩
  | primary ts =>
    obtain ⟨d, -, spelled, -⟩ := primary_sound budget ended parsed
    obtain ⟨k, ks, starts, -⟩ := primary_starts d
    exact ⟨_, spelled, fun _ => by simp [starts]⟩
  | enclosed ts =>
    obtain ⟨d, -, spelled⟩ := enclosed_sound budget ended parsed
    exact ⟨_, spelled, fun _ => by simp⟩
  | named name ts =>
    -- What follows a name is only known together with the name, so one is put in front.
    have spelledName : Spelled [.ident name] (⟨.ident name, 0⟩ :: ts) ts :=
      ⟨ended, [⟨.ident name, 0⟩], rfl, rfl⟩
    obtain ⟨d, -, ⟨ended', taken, split, kinds⟩, -⟩ := named_sound budget spelledName parsed
    obtain ⟨k, ks, starts, -⟩ := primary_starts d
    cases taken with
    | nil => exact absurd (kinds.trans starts) (List.cons_ne_nil _ _).symm
    | cons t taken => exact ⟨_, ⟨ended', taken, (List.cons.inj split).2, rfl⟩, False.elim⟩
  | arguments ts =>
    obtain ⟨first, others, -, spelled⟩ := arguments_sound budget ended parsed
    obtain ⟨k, ks, starts, -⟩ := arg_starts first
    exact ⟨_, spelled, fun _ => by simp [starts]⟩
  | argument ts =>
    obtain ⟨d, -, spelled, -⟩ := argument_sound budget ended parsed
    obtain ⟨k, ks, starts, -⟩ := arg_starts d
    exact ⟨_, spelled, fun _ => by simp [starts]⟩
  | comparand ts =>
    obtain ⟨d, -, spelled⟩ := comparand_sound budget ended parsed
    obtain ⟨k, ks, starts⟩ := operand_kinds_cons d
    exact ⟨_, spelled, fun _ => by simp [starts]⟩

/-- A call that begins with the first token leaves fewer. -/
theorem shorter_of_run {answer : c.Answer} (ended : Ended c.tokens) (begins : c.Begins)
    (parsed : c.run budget = .ok (answer, rest)) :
    ∃ kinds, Spelled kinds c.tokens rest ∧ rest.length < c.tokens.length := by
  obtain ⟨kinds, spelled, some⟩ := spelled_of_run ended parsed
  have taken := List.length_pos_iff.mpr (some begins)
  have length := spelled.length
  exact ⟨kinds, spelled, by omega⟩

/-! ## The calls that a call makes -/

theorem shorter_of_advance {k : TokenKind} (ended : Ended ts) (kind : (current ts).kind = k)
    (more : k ≠ .ending) : Spelled [k] ts (advance ts) ∧ (advance ts).length < ts.length := by
  have spelled := Spelled.advance ended kind more
  have length := spelled.length
  rw [List.length_singleton] at length
  exact ⟨spelled, by omega⟩

/-- No parser stands as high as one token weighs. -/
theorem weight_lt_of_shorter (shorter : made.tokens.length < c.tokens.length) :
    made.weight < c.weight := by
  have rank : made.rank ≤ 4 := by cases made <;> simp [Call.rank]
  rw [Call.weight, Call.weight]
  omega

/-- A call is made for tokens that are left of those at hand, and it is lighter than the one that
makes it. -/
theorem weight_of_makes (ended : Ended c.tokens) (makes : Makes budget c made) :
    ∃ kinds, Spelled kinds c.tokens made.tokens ∧ made.weight < c.weight := by
  cases makes with
  | firstDisjunct => exact ⟨_, .nil ended, Nat.lt_succ_self _⟩
  | otherDisjuncts parsed goes =>
    obtain ⟨kinds, spelled, shorter⟩ :=
      shorter_of_run (c := .conjunction _) ended trivial parsed
    exact ⟨kinds, spelled, weight_lt_of_shorter shorter⟩
  | nextDisjunct goes =>
    obtain ⟨spelled, shorter⟩ := shorter_of_advance ended goes (by simp)
    exact ⟨_, spelled, weight_lt_of_shorter shorter⟩
  | laterDisjuncts goes parsed =>
    obtain ⟨spelledOr, shorter⟩ := shorter_of_advance ended goes (by simp)
    obtain ⟨kinds, spelled, shorter'⟩ :=
      shorter_of_run (c := .conjunction _) spelledOr.1 trivial parsed
    exact ⟨_, spelledOr.append spelled, weight_lt_of_shorter (Nat.lt_trans shorter' shorter)⟩
  | firstConjunct => exact ⟨_, .nil ended, Nat.lt_succ_self _⟩
  | otherConjuncts parsed goes =>
    obtain ⟨kinds, spelled, shorter⟩ := shorter_of_run (c := .primary _) ended trivial parsed
    exact ⟨kinds, spelled, weight_lt_of_shorter shorter⟩
  | nextConjunct goes =>
    obtain ⟨spelled, shorter⟩ := shorter_of_advance ended goes (by simp)
    exact ⟨_, spelled, weight_lt_of_shorter shorter⟩
  | laterConjuncts goes parsed =>
    obtain ⟨spelledAnd, shorter⟩ := shorter_of_advance ended goes (by simp)
    obtain ⟨kinds, spelled, shorter'⟩ :=
      shorter_of_run (c := .primary _) spelledAnd.1 trivial parsed
    exact ⟨_, spelledAnd.append spelled, weight_lt_of_shorter (Nat.lt_trans shorter' shorter)⟩
  | group kind =>
    obtain ⟨spelled, shorter⟩ := shorter_of_advance ended kind (by simp)
    exact ⟨_, spelled, weight_lt_of_shorter shorter⟩
  | afterName kind =>
    obtain ⟨spelled, shorter⟩ := shorter_of_advance ended kind (by simp)
    exact ⟨_, spelled, weight_lt_of_shorter shorter⟩
  | inGroup => exact ⟨_, .nil ended, Nat.lt_succ_self _⟩
  | allArguments kind more =>
    obtain ⟨spelled, shorter⟩ := shorter_of_advance ended kind (by simp)
    exact ⟨_, spelled, weight_lt_of_shorter shorter⟩
  | compared kind =>
    obtain ⟨spelled, shorter⟩ := shorter_of_advance ended kind (by simp)
    exact ⟨_, spelled, weight_lt_of_shorter shorter⟩
  | firstArgument => exact ⟨_, .nil ended, Nat.lt_succ_self _⟩
  | otherArguments parsed goes =>
    obtain ⟨kinds, spelled, shorter⟩ := shorter_of_run (c := .argument _) ended trivial parsed
    obtain ⟨spelledComma, shorter'⟩ := shorter_of_advance spelled.1 goes (by simp)
    exact ⟨_, spelled.append spelledComma, weight_lt_of_shorter (Nat.lt_trans shorter' shorter)⟩
  | passedRule none => exact ⟨_, .nil ended, Nat.lt_succ_self _⟩
  | comparedGroup none kind =>
    obtain ⟨spelled, shorter⟩ := shorter_of_advance ended kind (by simp)
    exact ⟨_, spelled, weight_lt_of_shorter shorter⟩

theorem weight_pos (ended : Ended c.tokens) : 0 < c.weight := by
  have some := ended.length_pos
  rw [Call.weight]
  omega

/-! ## All calls of a run -/

/-- Every call of a run is for tokens that are left of those at hand, and what it is lighter by than
the first call, it has at least of the budget. -/
theorem Reaches.within (reaches : Reaches budget c left d) (ended : Ended c.tokens) :
    (∃ kinds, Spelled kinds c.tokens d.tokens) ∧ budget + d.weight ≤ left + c.weight := by
  induction reaches with
  | here => exact ⟨⟨[], .nil ended⟩, Nat.le_refl _⟩
  | through makes _ ih =>
    obtain ⟨kinds, spelled, lighter⟩ := weight_of_makes ended makes
    obtain ⟨⟨others, spelledOthers⟩, enough⟩ := ih spelled.1
    exact ⟨⟨_, spelled.append spelledOthers⟩, by omega⟩

/-- Calls are not nested as deep in a call as it weighs, whatever the budget. -/
theorem Reaches.depth_lt (reaches : Reaches budget c left d) (ended : Ended c.tokens) :
    budget < left + c.weight := by
  obtain ⟨⟨kinds, spelled⟩, within⟩ := reaches.within ended
  have some := weight_pos spelled.1
  omega

/-- What a call looks at is left of the tokens at hand. -/
theorem spelled_of_looks (ended : Ended c.tokens) (looks : Looks budget c ts) :
    ∃ kinds, Spelled kinds c.tokens ts := by
  cases looks with
  | given => exact ⟨_, .nil ended⟩
  | left makes parsed =>
    obtain ⟨kinds, spelled, -⟩ := weight_of_makes ended makes
    obtain ⟨others, spelledOthers, -⟩ := spelled_of_run spelled.1 parsed
    exact ⟨_, spelled.append spelledOthers⟩
  | opened kind => exact ⟨_, .advance ended kind (by simp)⟩

/-- Budgets that are not less than the weight of a call give the same answer. -/
theorem run_of_weight_le (ended : Ended c.tokens) (enough : c.weight ≤ budget)
    (enough' : c.weight ≤ budget') : c.run budget = c.run budget' := by
  have some := weight_pos ended
  induction budget generalizing c budget' with
  | zero => omega
  | succ budget ih =>
    obtain ⟨budget', rfl⟩ : ∃ b, budget' = b + 1 := ⟨budget' - 1, by omega⟩
    refine run_congr fun made makes => ?_
    obtain ⟨kinds, spelled, lighter⟩ := weight_of_makes ended makes
    exact ih spelled.1 (by omega) (by omega) (weight_pos spelled.1)

/-! ## Places in the tokens -/

/-- Tokens that are left of those from a place on are those from a place behind it on, which is not
behind the last token. -/
theorem Spelled.eq_drop {kinds : List TokenKind} {tokens : List Token}
    (spelled : Spelled kinds (tokens.drop p) rest) :
    p + kinds.length < tokens.length ∧ rest = tokens.drop (p + kinds.length) := by
  have length := spelled.length
  have some := spelled.1.length_pos
  rw [List.length_drop] at length
  obtain ⟨-, taken, split, rfl⟩ := spelled
  refine ⟨by omega, ?_⟩
  rw [← List.drop_drop, split, List.length_map, List.drop_left]

end calls

end RecordRules.Parse

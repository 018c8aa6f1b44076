import RecordRules.Proofs.Engine.Touring
import RecordRules.Proofs.Value.Context
import RecordRules.Proofs.Value.Filling

/-!
# Acts on a field

For one field, a handler comes to an `Act`, unless it reads other fields: it gives up, it leaves
the field as it is, it assigns a text, or it assigns a text if the field is zero.

If the acts of a field have gone well once, what do they do when they find what they have
left?  Mostly the same again.  But an act may have spared a field that was not zero, which a
later act has made zero: then it assigns now, and this may fail.  It is the only way in which
the acts can fail (`arrives_again`).
-/

namespace RecordRules

/-- What can be done with a field in some state: looking at it and assigning to it. -/
structure Grip (σ : Type) where
  look : σ → Option Value
  assign : Literal → σ → Option (Except SetError Unit × σ)

/-- The field at a path below a root. -/
def FieldPath.grip (path : FieldPath) : Grip Value where
  look root := root.resolve path.steps
  assign l root := root.update (Value.set l) path.steps

/-- A field on its own, which may or may not be changed. -/
def Grip.here (opened : Bool) : Grip Value where
  look := some
  assign l v := if opened then some (v.set l) else none

/-- What the handler of an annotation comes to. -/
inductive Act where
  | fail (e : Fatal)
  /-- Leaves the field as it is.  All that counts is whether it shows itself. -/
  | keep (verdict : Bool → Except Fatal Verdict)
  | assign (text : String)
  /-- Assigns if the field is zero. -/
  | fill (text : String)

namespace Act

section run

variable {σ : Type} (grip : Grip σ) (name : String)

/-- Assigns a text to the field that is shown under a name. -/
def put (text : String) : Tour σ Verdict := fun state =>
  match grip.assign (.str text) state with
  | none => ⟨.error (.unresolved name), state, []⟩
  | some (.ok (), after) => ⟨.ok .descend, after, []⟩
  | some (.error e, after) => ⟨.error (.assignment name e), after, []⟩

/-- Does what the act does to the field that is shown under a name. -/
def run : Act → Tour σ Verdict
  | fail e => fun state => ⟨.error e, state, []⟩
  | keep verdict => fun state => ⟨verdict (grip.look state).isSome, state, []⟩
  | assign text => put grip name text
  | fill text => fun state =>
    match grip.look state with
    | none => ⟨.error (.unresolved name), state, []⟩
    | some v => if v.isZero then put grip name text state else ⟨.ok .descend, state, []⟩

theorem run_keep (verdict : Bool → Except Fatal Verdict) (state : σ) :
    (keep verdict).run grip name state = ⟨verdict (grip.look state).isSome, state, []⟩ :=
  rfl

theorem run_fill (text : String) (state : σ) :
    (fill text).run grip name state =
      match grip.look state with
      | none => ⟨.error (.unresolved name), state, []⟩
      | some v => if v.isZero then put grip name text state else ⟨.ok .descend, state, []⟩ :=
  rfl

/-- Does what the acts do, one after the other. -/
def runAll : List Act → Tour σ Verdict
  | [] => return .descend
  | act :: acts => do
    let verdict ← act.run grip name
    return verdict.and (← runAll acts)

/-- What an act does without error to a field that does not show itself, it does to any other
such field. -/
theorem run_unreached {act : Act} {state state' : σ} {v : Verdict}
    (unshown : grip.look state = none) (unshown' : grip.look state' = none)
    (stuck : ∀ l, grip.assign l state = none) (ok : (act.run grip name state).result = .ok v) :
    act.run grip name state = ⟨.ok v, state, []⟩ ∧
      act.run grip name state' = ⟨.ok v, state', []⟩ := by
  cases act with
  | fail e => cases ok
  | keep verdict =>
    rw [run_keep, unshown] at ok
    rw [run_keep, run_keep, unshown, unshown']
    exact ⟨congrArg (Trip.mk · state []) ok, congrArg (Trip.mk · state' []) ok⟩
  | assign text =>
    change (put grip name text state).result = .ok v at ok
    unfold put at ok
    rw [stuck] at ok
    cases ok
  | fill text =>
    rw [run_fill, unshown] at ok
    cases ok

theorem runAll_unreached {acts : List Act} {state state' : σ} {v : Verdict}
    (unshown : grip.look state = none) (unshown' : grip.look state' = none)
    (stuck : ∀ l, grip.assign l state = none)
    (ok : (runAll grip name acts state).result = .ok v) :
    runAll grip name acts state = ⟨.ok v, state, []⟩ ∧
      runAll grip name acts state' = ⟨.ok v, state', []⟩ := by
  induction acts generalizing v with
  | nil =>
    cases ok
    exact ⟨rfl, rfl⟩
  | cons act acts ih =>
    obtain ⟨verdict, between, _, first, rest, -⟩ := Tour.bind_ok ok
    obtain ⟨ran, ran'⟩ :=
      run_unreached grip name unshown unshown' stuck (congrArg Trip.result first)
    obtain ⟨-, rfl, -⟩ := Trip.mk.inj (first.symm.trans ran)
    obtain ⟨verdict', after, _, second, last, -⟩ := Tour.bind_ok rest
    obtain ⟨others, others'⟩ := ih (congrArg Trip.result second)
    cases last
    constructor
    · rw [runAll, Tour.bind_of_ok ran, Tour.bind_of_ok others]
      rfl
    · rw [runAll, Tour.bind_of_ok ran', Tour.bind_of_ok others']
      rfl

end run

end Act

/-! ## Acts in a context -/

/-- What a part of a tour does to a value, another one does to it in a context. -/
def within (fill : Value → Value) : MonadRelation (Tour Value) (Tour Value) where
  Rel x y := ∀ u, y (fill u) = ⟨(x u).result, fill (x u).state, (x u).stops⟩
  pure _ _ := rfl
  bind {α β x y f g} first second u := by
    rw [Tour.bind_apply, Tour.bind_apply, first]
    generalize x u = trip
    obtain ⟨result, between, stops⟩ := trip
    cases result with
    | error e => rfl
    | ok a =>
      dsimp only
      rw [second]

section context

variable {path : FieldPath} {fill : Value → Value} {opened : Bool}

theorem within_put (context : Value.Context path.steps fill opened) (text : String) :
    (within fill).Rel (Act.put (.here opened) path.name text)
      (Act.put path.grip path.name text) := by
  intro u
  have assigns : path.grip.assign (.str text) (fill u) =
      if opened then some ((u.set (.str text)).1, fill (u.set (.str text)).2) else none :=
    context.update_here _ u
  unfold Act.put
  dsimp only [FieldPath.grip, Grip.here] at assigns ⊢
  rw [assigns]
  cases opened with
  | false => rfl
  | true =>
    generalize u.set (.str text) = after
    obtain ⟨outcome, after⟩ := after
    cases outcome <;> rfl

/-- An act on a field in a context is an act on the field. -/
theorem within_run (context : Value.Context path.steps fill opened) (act : Act) :
    (within fill).Rel (act.run (.here opened) path.name) (act.run path.grip path.name) := by
  have looks : ∀ u, path.grip.look (fill u) = some u := context.resolve
  cases act with
  | fail e => exact fun _ => rfl
  | keep verdict =>
    intro u
    rw [Act.run_keep, Act.run_keep, looks]
    rfl
  | assign text => exact within_put context text
  | fill text =>
    intro u
    rw [Act.run_fill, Act.run_fill, looks]
    dsimp only [Grip.here]
    split
    · exact within_put context text u
    · rfl

theorem within_runAll (context : Value.Context path.steps fill opened) (acts : List Act) :
    (within fill).Rel (Act.runAll (.here opened) path.name acts)
      (Act.runAll path.grip path.name acts) := by
  induction acts with
  | nil => exact (within fill).pure _
  | cons act acts ih =>
    refine (within fill).bind (within_run context act) fun verdict => ?_
    exact (within fill).bind ih fun _ => (within fill).pure _

end context

/-! ## What acts do -/

/-- What an act does to a field on its own if it goes well. -/
inductive Ran (opened : Bool) (x : Value) : Act → Verdict → Value → Prop
  | kept {verdict : Bool → Except Fatal Verdict} {v : Verdict} : verdict true = .ok v →
    Ran opened x (.keep verdict) v x
  | assigned {text : String} {y : Value} : opened = true → x.set (.str text) = (.ok (), y) →
    Ran opened x (.assign text) .descend y
  | filled {text : String} {y : Value} : x.isZero = true → opened = true →
    x.set (.str text) = (.ok (), y) → Ran opened x (.fill text) .descend y
  | spared {text : String} : x.isZero = false → Ran opened x (.fill text) .descend x

/-- What acts do to a field on its own if they go well. -/
inductive RanAll (opened : Bool) : Value → List Act → Verdict → Value → Prop
  | nil (x : Value) : RanAll opened x [] .descend x
  | cons {act : Act} {acts : List Act} {v v' : Verdict} {x y z : Value} : Ran opened x act v y →
    RanAll opened y acts v' z → RanAll opened x (act :: acts) (v.and v') z

section run

variable {opened : Bool} {name : String} {x y : Value} {v : Verdict}

theorem put_here_of_set {text : String} (open' : opened = true)
    (set : x.set (.str text) = (.ok (), y)) :
    Act.put (.here opened) name text x = ⟨.ok .descend, y, []⟩ := by
  unfold Act.put
  dsimp only [Grip.here]
  rw [if_pos open', set]

theorem set_of_put_here {text : String}
    (ok : (Act.put (.here opened) name text x).result = .ok v) :
    opened = true ∧ v = .descend ∧
      x.set (.str text) = (.ok (), (Act.put (.here opened) name text x).state) := by
  unfold Act.put at ok ⊢
  dsimp only [Grip.here] at ok ⊢
  cases opened with
  | false => cases ok
  | true =>
    rw [if_pos rfl] at ok ⊢
    generalize x.set (.str text) = after at ok ⊢
    obtain ⟨outcome, after⟩ := after
    cases outcome with
    | error e => cases ok
    | ok _ =>
      cases ok
      exact ⟨rfl, rfl, rfl⟩

theorem run_of_ran {act : Act} (ran : Ran opened x act v y) :
    act.run (.here opened) name x = ⟨.ok v, y, []⟩ := by
  cases ran with
  | kept is =>
    rw [Act.run_keep]
    exact congrArg (Trip.mk · x []) is
  | assigned open' set => exact put_here_of_set open' set
  | filled zero open' set =>
    rw [Act.run_fill]
    dsimp only [Grip.here]
    rw [if_pos zero]
    exact put_here_of_set open' set
  | spared nonzero =>
    rw [Act.run_fill]
    dsimp only [Grip.here]
    rw [if_neg (by rw [nonzero]; exact Bool.false_ne_true)]

theorem ran_of_run {act : Act}
    (ok : (act.run (.here opened) name x).result = .ok v) :
    Ran opened x act v (act.run (.here opened) name x).state := by
  cases act with
  | fail e => cases ok
  | keep verdict => exact .kept ok
  | assign text =>
    obtain ⟨open', rfl, set⟩ := set_of_put_here ok
    exact .assigned open' set
  | fill text =>
    rw [Act.run_fill] at ok ⊢
    dsimp only [Grip.here] at ok ⊢
    cases zero : x.isZero with
    | true =>
      rw [zero, if_pos rfl] at ok
      rw [if_pos rfl]
      obtain ⟨open', rfl, set⟩ := set_of_put_here ok
      exact .filled zero open' set
    | false =>
      rw [zero, if_neg Bool.false_ne_true] at ok
      rw [if_neg Bool.false_ne_true]
      cases ok
      exact .spared zero

theorem ranAll_of_runAll {acts : List Act}
    (ok : (Act.runAll (.here opened) name acts x).result = .ok v) :
    RanAll opened x acts v (Act.runAll (.here opened) name acts x).state := by
  induction acts generalizing x v with
  | nil =>
    cases ok
    exact .nil x
  | cons act acts ih =>
    obtain ⟨verdict, between, _, first, rest, both⟩ := Tour.bind_ok ok
    obtain ⟨verdict', after, _, second, last, same⟩ := Tour.bind_ok rest
    have ran := ran_of_run (x := x) (congrArg Trip.result first)
    have others := ih (x := between) (congrArg Trip.result second)
    rw [Act.runAll, both, same]
    cases last
    rw [first] at ran
    rw [second] at others
    exact .cons ran others

end run

/-! ## Acts on what they have left -/

section again

variable {opened : Bool} {name : String} {x x' y : Value} {v : Verdict} {acts : List Act}

/-- An act leaves the field as it is or assigns to it. -/
theorem ran_cases {act : Act} (ran : Ran opened x act v y) :
    y = x ∨ opened = true ∧ ∃ text, x.set (.str text) = (.ok (), y) := by
  cases ran with
  | kept _ | spared _ => exact .inl rfl
  | assigned open' set | filled _ open' set => exact .inr ⟨open', _, set⟩

/-- A field that may not be changed stays as it is. -/
theorem eq_of_ranAll (closed : opened = false) (ran : RanAll opened x acts v y) : y = x := by
  induction ran with
  | nil => rfl
  | cons first _ ih =>
    rcases ran_cases first with same | ⟨open', -⟩
    · exact ih.trans same
    · rw [closed] at open'
      cases open'

/-- The acts leave a field as it is or leave a scalar in it. -/
theorem eq_or_filled_of_ranAll (ran : RanAll opened x acts v y) : y = x ∨ y.Filled := by
  induction ran with
  | nil => exact .inl rfl
  | cons first _ ih =>
    rcases ran_cases first with rfl | ⟨-, text, set⟩
    · exact ih
    · rcases ih with rfl | filled
      · have filled := Value.filled_set (congrArg Prod.fst set)
        rw [set] at filled
        exact .inr filled
      · exact .inr filled

/-- Assigning to the field afterwards is like assigning to it before. -/
theorem alike_of_ranAll (ran : RanAll opened x acts v y) : x.Alike y := by
  induction ran with
  | nil x => exact .refl x
  | cons first _ ih =>
    rcases ran_cases first with rfl | ⟨-, text, set⟩
    · exact ih
    · exact (Value.alike_of_set set).trans ih

/-- Why the acts may fail on what they have left: the field was not zero, they have made it
zero, and what is assigned to a zero field cannot be assigned to it. -/
def Act.Emptied (acts : List Act) (name : String) (x x' : Value) (e : Fatal) : Prop :=
  ∃ text cause, Act.fill text ∈ acts ∧ x.isZero = false ∧ x'.isZero = true ∧
    (x'.set (.str text)).1 = .error cause ∧ e = .assignment name cause

theorem emptied_cons {act : Act} {e : Fatal} (emptied : Act.Emptied acts name x x' e) :
    Act.Emptied (act :: acts) name x x' e := by
  obtain ⟨text, cause, mem, facts⟩ := emptied
  exact ⟨text, cause, List.mem_cons_of_mem _ mem, facts⟩

/-- Where the acts stand on what they have left, while they stood at a value then: at the same
one; or still at what they have left; or, where a spared field has been made zero later, at
something that they have assigned to it. -/
inductive Stage (x x' : Value) : Value → Value → Prop
  | level (y : Value) : Stage x x' y y
  | ahead {y : Value} : (x'.isZero = true → y = x) → Stage x x' y x'
  | apart {z : Value} : x'.isZero = true → x.isZero = false → z.Alike x' → Stage x x' x z

theorem Stage.alike {y z : Value} (stage : Stage x x' y z) (alike : y.Alike x') : y.Alike z := by
  cases stage with
  | level => exact .refl y
  | ahead _ => exact alike
  | apart _ _ alike' => exact alike.trans alike'.symm

/-- An assignment to a zero field fails. -/
theorem run_fill_error {text : String} {cause : SetError} (open' : opened = true)
    (zero : x.isZero = true) (set : (x.set (.str text)).1 = .error cause) :
    ((Act.fill text).run (.here opened) name x).result = .error (.assignment name cause) := by
  rw [Act.run_fill]
  dsimp only [Grip.here]
  rw [if_pos zero]
  unfold Act.put
  dsimp only
  rw [if_pos open']
  generalize x.set (.str text) = after at set ⊢
  obtain ⟨outcome, after⟩ := after
  cases set
  rfl

/-- Assigning to a zero field that is like one that was made zero goes well, or tells that that
one cannot be assigned to. -/
theorem fill_apart {z : Value} {text : String} (open' : opened = true) (zero : z.isZero = true)
    (zero' : x'.isZero = true) (nonzero : x.isZero = false) (alike : z.Alike x') :
    (∃ y, Ran opened z (.fill text) .descend y ∧ Stage x x' x y) ∨
      ∃ e, ((Act.fill text).run (.here opened) name z).result = .error e ∧
        Act.Emptied [.fill text] name x x' e := by
  cases outcome : (z.set (.str text)).1 with
  | ok _ =>
    have set : z.set (.str text) = (.ok (), (z.set (.str text)).2) := Prod.ext outcome rfl
    have alike' := (Value.alike_of_set set).symm.trans alike
    exact .inl ⟨_, .filled zero open' set, .apart zero' nonzero alike'⟩
  | error cause =>
    refine .inr ⟨_, run_fill_error open' zero outcome, text, cause, List.mem_singleton_self _,
      nonzero, zero', ?_, rfl⟩
    exact (alike text).1.symm.trans outcome

/-- One act more, and the stage is again one of the three. -/
theorem stage_step (name : String) {act : Act} {y₁ y₂ z : Value} (ran : Ran opened y₁ act v y₂)
    (stage : Stage x x' y₁ z) (alike : y₁.Alike x') (closed : opened = false → x' = x) :
    (∃ z', Ran opened z act v z' ∧ Stage x x' y₂ z') ∨
      ∃ e, (act.run (.here opened) name z).result = .error e ∧
        Act.Emptied [act] name x x' e := by
  have changed : x'.isZero = true → x.isZero = false → opened = true := by
    intro zero nonzero
    cases opened with
    | false =>
      rw [closed rfl, nonzero] at zero
      cases zero
    | true => rfl
  cases ran with
  | kept is => exact .inl ⟨z, .kept is, stage⟩
  | assigned open' set =>
    -- Whatever was there before, the text that is assigned makes the same of it.
    have set' := (stage.alike alike).set set
    exact .inl ⟨y₂, .assigned open' set', .level y₂⟩
  | filled zero open' set =>
    cases stage with
    | level => exact .inl ⟨y₂, .filled zero open' set, .level y₂⟩
    | ahead _ =>
      cases zero' : x'.isZero with
      | true => exact .inl ⟨y₂, .filled zero' open' (alike.set set), .level y₂⟩
      | false =>
        refine .inl ⟨x', .spared zero', .ahead fun zero => ?_⟩
        rw [zero'] at zero
        cases zero
    | apart _ nonzero _ =>
      rw [zero] at nonzero
      cases nonzero
  | spared nonzero =>
    cases stage with
    | level => exact .inl ⟨_, .spared nonzero, .level _⟩
    | ahead same =>
      cases zero' : x'.isZero with
      | true =>
        -- Nothing has been assigned up to here: the field was spared, and a later act emptied it.
        obtain rfl := same zero'
        exact fill_apart (changed zero' nonzero) zero' zero' nonzero (.refl x')
      | false => exact .inl ⟨x', .spared zero', .ahead same⟩
    | apart zero' nonzero' alike' =>
      cases zero : z.isZero with
      | true => exact fill_apart (changed zero' nonzero') zero zero' nonzero' alike'
      | false => exact .inl ⟨z, .spared zero, .apart zero' nonzero' alike'⟩

/-- One act goes well before others. -/
theorem arrives_cons {act : Act} {v' : Verdict} {y z after : Value} (first : Ran opened y act v z)
    (rest : (Act.runAll (.here opened) name acts).Arrives z v' after
      (Act.Emptied acts name x x')) :
    (Act.runAll (.here opened) name (act :: acts)).Arrives y (v.and v') after
      (Act.Emptied (act :: acts) name x x') := by
  refine (Tour.arrives_of_eq (run_of_ran first)).bind ?_
  exact (rest.weaken fun e => emptied_cons).bind (Tour.arrives_of_eq rfl)

/-- One act fails before others. -/
theorem arrives_fail {act : Act} {y after : Value} {e : Fatal}
    (error : (act.run (.here opened) name y).result = .error e)
    (emptied : Act.Emptied [act] name x x' e) :
    (Act.runAll (.here opened) name (act :: acts)).Arrives y v after
      (Act.Emptied (act :: acts) name x x') := by
  obtain ⟨text, cause, mem, facts⟩ := emptied
  refine Tour.arrives_of_error _ error ⟨text, cause, ?_, facts⟩
  rw [List.mem_singleton.mp mem]
  exact List.mem_cons_self

/-- The acts go well on what they have left, and leave it as it is, unless they have emptied
it. -/
theorem arrives_of_stage {y z : Value} (ran : RanAll opened y acts v x') (stage : Stage x x' y z)
    (closed : opened = false → x' = x) :
    (Act.runAll (.here opened) name acts).Arrives z v x' (Act.Emptied acts name x x') := by
  induction ran generalizing z with
  | nil y =>
    cases stage with
    | level | ahead _ => exact Tour.arrives_of_eq rfl
    | apart zero nonzero _ =>
      rw [zero] at nonzero
      cases nonzero
  | cons first rest ih =>
    have alike := alike_of_ranAll (.cons first rest)
    rcases stage_step name first stage alike closed with ⟨z', again, stage'⟩ | fails
    · exact arrives_cons again (ih stage' closed)
    · obtain ⟨e, error, emptied⟩ := fails
      exact arrives_fail error emptied

/-- A structure cannot be assigned to. -/
theorem set_record (l : Literal) (type : RecordType) (fields : List Value) :
    (Value.record type fields).set l = (.error (.unsupported .record), .record type fields) :=
  rfl

/-- Acts that have left no scalar have assigned nothing, and they assign nothing to any other
value but a structure that is zero, which cannot be assigned to. -/
theorem arrives_of_unfilled {y z : Value} (ran : RanAll opened x acts v y) (unfilled : ¬ y.Filled)
    (closed : opened = false → z = y)
    (whole : z.isZero = false ∨ ∃ type fields, z = .record type fields) :
    (Act.runAll (.here opened) name acts).Arrives z v z (Act.Emptied acts name y z) := by
  induction ran with
  | nil x => exact Tour.arrives_of_eq rfl
  | @cons act acts _ _ x between y first rest ih =>
    have unassigned : ∀ text, x.set (.str text) ≠ (.ok (), between) := by
      intro text set
      have filled := Value.filled_set (congrArg Prod.fst set)
      rw [set] at filled
      rcases eq_or_filled_of_ranAll rest with rfl | filled'
      · exact unfilled filled
      · exact unfilled filled'
    have others := ih unfilled closed
    cases first with
    | kept is => exact arrives_cons (.kept is) others
    | assigned _ set | filled _ _ set => exact absurd set (unassigned _)
    | @spared text nonzero =>
      cases zero : z.isZero with
      | false => exact arrives_cons (.spared zero) others
      | true =>
        -- The field was not zero and is now: what lies below it has changed.
        have same : y = x := (eq_or_filled_of_ranAll rest).resolve_right unfilled
        have open' : opened = true := by
          cases opened with
          | true => rfl
          | false =>
            rw [closed rfl, same, nonzero] at zero
            cases zero
        obtain nonzero' | ⟨type, fields, rfl⟩ := whole
        · rw [nonzero'] at zero
          cases zero
        · have outcome := congrArg Prod.fst (set_record (.str text) type fields)
          refine arrives_fail (run_fill_error open' zero outcome) ?_
          exact ⟨text, _, List.mem_singleton_self _, same ▸ nonzero, zero, outcome, rfl⟩

/-- What a walk may make of a value below which it goes on: the same, or, where it is no scalar,
something that is not zero or a structure. -/
def Value.Grows (x x' : Value) : Prop :=
  x' = x ∨ ¬ x.Filled ∧ (x'.isZero = false ∨ ∃ type fields, x' = .record type fields)

/-- The acts of a field, after they have gone well and the walk has gone on below it, go well
again and leave everything as it is, unless the field has been emptied. -/
theorem arrives_again (name : String) {y y' : Value} (ran : RanAll opened x acts v y)
    (grows : y.Grows y') (closed : opened = false → y' = y) :
    (Act.runAll (.here opened) name acts).Arrives y' v y' (Act.Emptied acts name x y') := by
  rcases grows with rfl | ⟨unfilled, whole⟩
  · exact arrives_of_stage ran (.ahead fun _ => rfl) fun closed' => eq_of_ranAll closed' ran
  · obtain rfl := (eq_or_filled_of_ranAll ran).resolve_right unfilled
    exact arrives_of_unfilled ran unfilled closed whole

end again

end RecordRules

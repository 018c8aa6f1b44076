import RecordRules.Proofs.Engine.Acting
import RecordRules.Proofs.Engine.Walking

/-!
# Sweeps

A walk whose handlers come to acts is a tour of the value alone: a sweep.  A sweep that has
gone well leaves a value on which it goes well again, and which it then leaves as it is,
unless some field has been emptied (`settles`).

What a sweep does below a path concerns nothing else, so this is shown of a value in any
context.  The parts of a loop concern one value each, and two parts one after the other concern
what either does (`Minds.seq`).
-/

namespace RecordRules

open Value (Context)

/-- What a walk does on its way whose handlers come to acts. -/
def sweep (config : Config) (acts : FieldPath → FieldInfo → List Act) : Conduct (Tour Value) where
  look path := fun root => ⟨.ok (root.resolve path.steps), root, []⟩
  config := return config
  attend path info := do
    .stop path info
    Act.runAll path.grip path.name (acts path info)
  enclose path x := do
    x
    .stop path none

section equations

variable {config : Config} {acts : FieldPath → FieldInfo → List Act} {path : FieldPath}
  {root : Value} {levels : Nat}

theorem sweep_look {α : Type} (path : FieldPath) (f : Option Value → Tour Value α) (root : Value) :
    ((sweep config acts).look path >>= f) root = f (root.resolve path.steps) root :=
  rfl

theorem sweep_descend_record {type : RecordType} {fields : List Value}
    (leads : root.resolve path.steps = some (.record type fields)) :
    (sweep config acts).descend (levels + 1) path root =
      ((sweep config acts).fields ((sweep config acts).descend levels) path 0 type.fields >>=
        fun _ => .stop path none) root := by
  rw [Conduct.descend, sweep_look, leads]
  rfl

theorem sweep_descend_pointer {v target : Value} (leads : root.resolve path.steps = some v)
    (points : v.view = .pointer target) :
    (sweep config acts).descend (levels + 1) path root =
      (sweep config acts).descend levels path.pushDeref root := by
  rw [Conduct.descend, sweep_look, leads, Option.map_some, points]

theorem sweep_descend_seq {v : Value} {items : List Value}
    (leads : root.resolve path.steps = some v) (is : v.view = .seq items) :
    (sweep config acts).descend (levels + 1) path root =
      (sweep config acts).items ((sweep config acts).descend levels) path
        (List.range items.length) root := by
  rw [Conduct.descend, sweep_look, leads, Option.map_some, is]

theorem sweep_enter_record {into : FieldPath → Tour Value Unit} {index : Nat} {v : Value}
    {type : RecordType} {fields : List Value}
    (leads : root.resolve (path.pushIndex index).steps = some v)
    (is : v.indirect = .record type fields) :
    (sweep config acts).enter into path index root = into (path.pushIndex index) root := by
  rw [Conduct.enter, sweep_look, leads, Option.map_some, is]

theorem sweep_enter_other {into : FieldPath → Tour Value Unit} {index : Nat}
    (other : ∀ v type fields, root.resolve (path.pushIndex index).steps = some v →
      v.indirect ≠ .record type fields) :
    (sweep config acts).enter into path index root = ⟨.ok (), root, []⟩ := by
  rw [Conduct.enter, sweep_look]
  cases leads : root.resolve (path.pushIndex index).steps with
  | none => rfl
  | some v =>
    rw [Option.map_some]
    cases is : v.indirect with
    | record type fields => exact absurd is (other v type fields leads)
    | bool _ | integer _ _ | single _ | double _ | text _ | fixedText _ | json _ | absent _
    | present _ _ | boxed _ | seq _ | map _ | entry _ _ => rfl

/-- There is nothing to do at what is no structure, no pointer and no sequence. -/
theorem sweep_flat (config : Config) (acts : FieldPath → FieldInfo → List Act) (levels : Nat)
    {u : Value} (leads : root.resolve path.steps = some u)
    (flat : u.view.kind ≠ .record ∧ u.view.kind ≠ .pointer ∧ u.view.kind ≠ .seq) :
    (sweep config acts).descend levels path root = ⟨.ok (), root, []⟩ := by
  cases levels with
  | zero => rfl
  | succ levels =>
    rw [Conduct.descend, sweep_look, leads, Option.map_some]
    cases view : u.view with
    | record _ _ | pointer _ | seq _ => simp [view, View.kind] at flat
    | null | bool _ | int _ | uint _ | float _ | str _ | map _ | entry _ _ => rfl

/-- There is nothing to do where there is no structure. -/
theorem sweep_still (config : Config) (acts : FieldPath → FieldInfo → List Act) (levels : Nat)
    {path : FieldPath} {root : Value}
    (still : ∀ u, root.resolve path.steps = some u → u.EveryType fun _ => False) :
    (sweep config acts).descend levels path root = ⟨.ok (), root, []⟩ := by
  induction levels generalizing path with
  | zero => rfl
  | succ levels ih =>
    cases leads : root.resolve path.steps with
    | none =>
      rw [Conduct.descend, sweep_look, leads]
      rfl
    | some u =>
      have every := still u leads
      have inside : ∀ {step : Step} {addition : String} {t : Value},
          root.resolve (path.push step addition).steps = some t → t.EveryType fun _ => False := by
        intro step addition t leads'
        rw [resolve_push, leads, Option.bind_some] at leads'
        exact Value.everyType_of_leads (Value.leads_of_follow leads') every
      cases view : u.view with
      | record type fields =>
        rw [Value.eq_record_of_view view, Value.EveryType] at every
        exact every.1.elim
      | pointer target =>
        rw [sweep_descend_pointer leads view]
        exact ih fun _ => inside
      | seq items =>
        rw [sweep_descend_seq leads view]
        generalize List.range items.length = indices
        induction indices with
        | nil => rfl
        | cons index indices rest =>
          rw [Conduct.items_cons, Tour.bind_of_ok (sweep_enter_other ?_)]
          · exact rest
          · intro t type fields leads' is
            have structures := Value.everyType_indirect t (inside leads')
            rw [is, Value.EveryType] at structures
            exact structures.1
      | null | bool _ | int _ | uint _ | float _ | str _ | map _ | entry _ _ =>
        exact sweep_flat config acts (levels + 1) leads (by simp [view, View.kind])

end equations

/-! ## What a sweep leaves -/

/-- A sweep, and the fields that it is expected to get to. -/
structure Plan where
  config : Config
  acts : FieldPath → FieldInfo → List Act
  seen : FieldPath → FieldInfo → Prop

namespace Plan

variable (plan : Plan)

/-- The sweep itself. -/
def sweep : Conduct (Tour Value) :=
  RecordRules.sweep plan.config plan.acts

/-- The sweep through what is at a path, at most so many levels deep. -/
def descend (levels : Nat) (path : FieldPath) : Tour Value Unit :=
  plan.sweep.descend levels path

/-- All fields among the stops are seen. -/
def Sees (stops : List Stop) : Prop :=
  ∀ stop ∈ stops, ∀ info, stop.field = some info → plan.seen stop.path info

/-- The error tells that the acts of a field, which lies below a path, have emptied it, where
one value has been made of another one. -/
def Emptied (path : FieldPath) (u u' : Value) (e : Fatal) : Prop :=
  ∃ (place : FieldPath) (info : FieldInfo) (rest : List Step) (x x' : Value),
    place.steps = path.steps ++ rest ∧ plan.seen place info ∧
      u.resolve rest = some x ∧ u'.resolve rest = some x' ∧
      Act.Emptied (plan.acts place info) place.name x x' e

/-- One value has been made of another one at a path, and there is nothing more to do. -/
structure Settled (path : FieldPath) (opened : Bool) (u u' : Value) : Prop where
  closed : opened = false → u' = u
  grows : u.Grows u'
  again (levels : Nat) : u'.depth ≤ levels → ∀ fill, Context path.steps fill opened →
    (plan.descend levels path).Arrives (fill u') () (fill u') (plan.Emptied path u u')

/-- Whatever is made of a value no deeper than so many levels, in any context, it is settled
then. -/
def Settles (levels : Nat) : Prop :=
  ∀ (path : FieldPath) (fill : Value → Value) (opened : Bool) (u : Value),
    Context path.steps fill opened → u.depth ≤ levels →
    (plan.descend levels path (fill u)).result = .ok () →
    plan.Sees (plan.descend levels path (fill u)).stops →
    ∃ u', (plan.descend levels path (fill u)).state = fill u' ∧ plan.Settled path opened u u'

end Plan

section plan

variable {plan : Plan} {path : FieldPath} {fill : Value → Value} {opened : Bool} {levels : Nat}

theorem sees_append {stops stops' : List Stop} (sees : plan.Sees (stops ++ stops')) :
    plan.Sees stops ∧ plan.Sees stops' :=
  List.forall_mem_append.mp sees

/-- A field that lies below a step lies below the path before it. -/
theorem emptied_push {step : Step} {addition : String} {u u' x x' : Value} {e : Fatal}
    (follows : u.follow step = some x) (follows' : u'.follow step = some x')
    (emptied : plan.Emptied (path.push step addition) x x' e) : plan.Emptied path u u' e := by
  obtain ⟨place, info, rest, y, y', steps, seen, leads, leads', acts⟩ := emptied
  rw [steps_push, List.append_assoc, List.singleton_append] at steps
  refine ⟨place, info, step :: rest, y, y', steps, seen, ?_, ?_, acts⟩
  · rw [Value.resolve, follows, Option.bind_some, leads]
  · rw [Value.resolve, follows', Option.bind_some, leads']

/-- A value is settled if there is nothing to do with it. -/
theorem settled_of_still {u : Value}
    (still : ∀ levels fill, Context path.steps fill opened →
      plan.descend levels path (fill u) = ⟨.ok (), fill u, []⟩) :
    plan.Settled path opened u u where
  closed _ := rfl
  grows := .inl rfl
  again levels _ fill context := Tour.arrives_of_eq (still levels fill context)

theorem descend_still (context : Context path.steps fill opened) {u : Value}
    (still : u.EveryType fun _ => False) (levels : Nat) :
    plan.descend levels path (fill u) = ⟨.ok (), fill u, []⟩ := by
  refine sweep_still plan.config plan.acts levels fun t leads => ?_
  rw [context.resolve] at leads
  exact Option.some.inj leads ▸ still

/-! ## Parts of loops -/

/-- What a part of a sweep, which may go so many levels down, has made of some of the values
that are wrapped up at a path, and that there is nothing more for it to do: not even if others
among the values have been changed. -/
structure Mends (plan : Plan) (wrap : List Value → Value) (path : FieldPath) (opened : Bool)
    (about : Nat → Prop) (part : Nat → Tour Value Unit) (vs vs' : List Value) : Prop where
  length : vs'.length = vs.length
  closed : opened = false → vs' = vs
  others : ∀ j, ¬ about j → vs'[j]? = vs[j]?
  again : ∀ us us' : List Value, (∀ j, about j → us[j]? = vs[j]? ∧ us'[j]? = vs'[j]?) →
    ∀ levels, (∀ v ∈ us', v.depth ≤ levels) → ∀ fill, Context path.steps fill opened →
      (part levels).Arrives (fill (wrap us')) () (fill (wrap us'))
        (plan.Emptied path (wrap us) (wrap us'))

/-- Whatever a part of a sweep does with values that are wrapped up in a context, it mends the
values that it is about. -/
def Minds (plan : Plan) (wrap : List Value → Value) (path : FieldPath) (fill : Value → Value)
    (opened : Bool) (levels : Nat) (about : Nat → Prop) (part : Nat → Tour Value Unit) : Prop :=
  ∀ vs : List Value, (∀ j, about j → ∀ v, vs[j]? = some v → v.depth ≤ levels) →
    (part levels (fill (wrap vs))).result = .ok () →
    plan.Sees (part levels (fill (wrap vs))).stops →
    ∃ vs', (part levels (fill (wrap vs))).state = fill (wrap vs') ∧
      Mends plan wrap path opened about part vs vs'

section parts

variable {wrap : List Value → Value} {p q r : Nat → Prop} {x y : Nat → Tour Value Unit}

/-- A part that does nothing. -/
theorem mends_still {vs : List Value}
    (still : ∀ us' : List Value, (∀ j, p j → us'[j]? = vs[j]?) →
      ∀ levels fill, Context path.steps fill opened →
        ∃ stops, x levels (fill (wrap us')) = ⟨.ok (), fill (wrap us'), stops⟩) :
    Mends plan wrap path opened p x vs vs where
  length := rfl
  closed _ := rfl
  others _ _ := rfl
  again _ us' agree levels _ fill context := by
    obtain ⟨stops, is⟩ := still us' (fun j about => (agree j about).2) levels fill context
    exact Tour.arrives_of_eq is

theorem minds_pure : Minds plan wrap path fill opened levels p fun _ => pure () :=
  fun vs _ _ _ => ⟨vs, rfl, mends_still fun _ _ _ _ _ => ⟨[], rfl⟩⟩

/-- Two parts one after the other, which are not about the same values, are about what either is
about. -/
theorem Minds.seq (first : Minds plan wrap path fill opened levels p x)
    (second : Minds plan wrap path fill opened levels q y) (apart : ∀ j, p j → ¬ q j)
    (both : ∀ j, r j ↔ p j ∨ q j) :
    Minds plan wrap path fill opened levels r fun n => x n >>= fun _ => y n := by
  intro vs deep ok sees
  beta_reduce at ok sees ⊢
  obtain ⟨_, between, stops, ran, rest, all⟩ := Tour.bind_ok ok
  rw [all] at sees ⊢
  obtain ⟨sees, sees'⟩ := sees_append sees
  have mended := first vs (fun j about => deep j ((both j).mpr (.inl about)))
  rw [ran] at mended
  obtain ⟨vs₁, is, mends⟩ := mended rfl sees
  -- The second part finds the values that it is about as they were.
  dsimp only at is sees'
  rw [is] at rest sees' ⊢
  have deep' : ∀ j, q j → ∀ v, vs₁[j]? = some v → v.depth ≤ levels := by
    intro j about v found
    rw [mends.others j fun about' => apart j about' about] at found
    exact deep j ((both j).mpr (.inr about)) v found
  obtain ⟨vs₂, is', mends'⟩ := second vs₁ deep' rest sees'
  refine ⟨vs₂, is', ?_⟩
  constructor
  · exact mends'.length.trans mends.length
  · exact fun closed => (mends'.closed closed).trans (mends.closed closed)
  · intro j other
    rw [both, not_or] at other
    exact (mends'.others j other.2).trans (mends.others j other.1)
  · intro us us' agree n deep fill context
    refine (mends.again us us' (fun j about => ?_) n deep fill context).bind
      (mends'.again us us' (fun j about => ?_) n deep fill context)
    · obtain ⟨old, new⟩ := agree j ((both j).mpr (.inl about))
      exact ⟨old, new.trans (mends'.others j (apart j about))⟩
    · obtain ⟨old, new⟩ := agree j ((both j).mpr (.inr about))
      exact ⟨old.trans (mends.others j fun about' => apart j about' about).symm, new⟩

end parts

/-! ## One field -/

/-- What a sweep does with one field that is walked. -/
def Plan.pass (plan : Plan) (path : FieldPath) (info : FieldInfo) (levels : Nat) :
    Tour Value Unit := do
  if (← plan.sweep.attend path info) = .descend then
    plan.descend levels path

theorem visit_eq (plan : Plan) (levels : Nat) (path : FieldPath) (index : Nat) (info : FieldInfo) :
    plan.sweep.visit (plan.descend levels) path index info =
      if info.exported then
        plan.pass (path.pushField index (Walk.segment plan.config info)) info levels
      else pure () := by
  rw [Conduct.visit]
  split <;> rfl

variable {info : FieldInfo}

theorem pass_descend {root between : Value} {stops : List Stop}
    (attends : plan.sweep.attend path info root = ⟨.ok .descend, between, stops⟩) :
    plan.pass path info levels root =
      ⟨(plan.descend levels path between).result, (plan.descend levels path between).state,
        stops ++ (plan.descend levels path between).stops⟩ :=
  Tour.bind_of_ok attends

theorem pass_skip {root between : Value} {stops : List Stop}
    (attends : plan.sweep.attend path info root = ⟨.ok .skip, between, stops⟩) :
    plan.pass path info levels root = ⟨.ok (), between, stops ++ []⟩ :=
  Tour.bind_of_ok attends

/-- A field that does not show itself is left as it is, and so is any other such field. -/
theorem pass_unreached {root root' : Value} (unshown : root.resolve path.steps = none)
    (unshown' : root'.resolve path.steps = none)
    (stuck : ∀ l, root.update (Value.set l) path.steps = none)
    (ok : (plan.pass path info levels root).result = .ok ()) :
    (plan.pass path info levels root).state = root ∧
      ∀ levels', ∃ stops, plan.pass path info levels' root' = ⟨.ok (), root', stops⟩ := by
  obtain ⟨verdict, between, stops, attends, -, -⟩ := Tour.bind_ok ok
  have acts : (Act.runAll path.grip path.name (plan.acts path info) root).result = .ok verdict :=
    congrArg Trip.result attends
  obtain ⟨ran, ran'⟩ := Act.runAll_unreached path.grip path.name unshown unshown' stuck acts
  have attended : ∀ root, Act.runAll path.grip path.name (plan.acts path info) root =
      ⟨.ok verdict, root, []⟩ →
      plan.sweep.attend path info root = ⟨.ok verdict, root, [⟨path, some info⟩]⟩ := by
    intro root ran
    change ((do .stop path info; Act.runAll path.grip path.name (plan.acts path info) :
      Tour Value Verdict) root) = _
    rw [Tour.stop_bind, ran]
  have nothing : ∀ {root : Value} (levels : Nat), root.resolve path.steps = none →
      plan.descend levels path root = ⟨.ok (), root, []⟩ := by
    intro root levels unshown
    refine sweep_still plan.config plan.acts levels fun u leads => ?_
    rw [unshown] at leads
    cases leads
  cases verdict with
  | descend =>
    rw [pass_descend (attended root ran), nothing levels unshown]
    refine ⟨rfl, fun levels' => ⟨[⟨path, some info⟩], ?_⟩⟩
    rw [pass_descend (attended root' ran'), nothing levels' unshown']
    rfl
  | skip =>
    rw [pass_skip (attended root ran)]
    exact ⟨rfl, fun levels' => ⟨_, pass_skip (attended root' ran')⟩⟩

/-- Attending to a field in a context is doing what its acts do to it. -/
theorem attend_within (context : Context path.steps fill opened) (x : Value) :
    plan.sweep.attend path info (fill x) =
      let trip := Act.runAll (.here opened) path.name (plan.acts path info) x
      ⟨trip.result, fill trip.state, ⟨path, some info⟩ :: trip.stops⟩ := by
  change ((do .stop path info; Act.runAll path.grip path.name (plan.acts path info) :
    Tour Value Verdict) (fill x)) = _
  rw [Tour.stop_bind, within_runAll context]

/-- Attending again to a field that has been gone through. -/
theorem attend_again (context : Context path.steps fill opened) (seen : plan.seen path info)
    {x y y' : Value} {v : Verdict} (ran : RanAll opened x (plan.acts path info) v y)
    (grows : y.Grows y') (closed : opened = false → y' = y) :
    (plan.sweep.attend path info).Arrives (fill y') v (fill y') (plan.Emptied path x y') := by
  rw [Tour.Arrives, attend_within context]
  rcases arrives_again path.name ran grows closed with ⟨ok, is⟩ | ⟨e, error, emptied⟩
  · exact .inl ⟨ok, congrArg fill is⟩
  · refine .inr ⟨e, error, path, info, [], x, y', (List.append_nil _).symm, seen, rfl, rfl, emptied⟩

/-- What is made of the value below a field that its acts have left. -/
theorem settled_below (settles : plan.Settles levels) (context : Context path.steps fill opened)
    {x y : Value} (deep : x.depth ≤ levels) (left : y = x ∨ y.Filled)
    (ok : (plan.descend levels path (fill y)).result = .ok ())
    (sees : plan.Sees (plan.descend levels path (fill y)).stops) :
    ∃ y', (plan.descend levels path (fill y)).state = fill y' ∧ y.Grows y' ∧
      (opened = false → y' = y) ∧
      ∀ levels', y'.depth ≤ levels' → ∀ fill', Context path.steps fill' opened →
        (plan.descend levels' path).Arrives (fill' y') () (fill' y') (plan.Emptied path x y') := by
  rcases left with rfl | filled
  · obtain ⟨y', is, settled⟩ := settles path fill opened y context deep ok sees
    exact ⟨y', is, settled.grows, settled.closed, settled.again⟩
  · have still : ∀ {fill}, Context path.steps fill opened → ∀ levels,
        plan.descend levels path (fill y) = ⟨.ok (), fill y, []⟩ :=
      fun context => descend_still context (Value.everyType_filled filled)
    refine ⟨y, ?_, .inl rfl, fun _ => rfl, fun levels' _ fill' context' => ?_⟩
    · rw [still context levels]
    · exact Tour.arrives_of_eq (still context' levels')

/-- What is made of a field, and that there is nothing more to do with it. -/
theorem settled_pass (settles : plan.Settles levels) (context : Context path.steps fill opened)
    {x : Value} (deep : x.depth ≤ levels)
    (ok : (plan.pass path info levels (fill x)).result = .ok ())
    (sees : plan.Sees (plan.pass path info levels (fill x)).stops) :
    ∃ x', (plan.pass path info levels (fill x)).state = fill x' ∧ (opened = false → x' = x) ∧
      ∀ levels', x'.depth ≤ levels' → ∀ fill', Context path.steps fill' opened →
        (plan.pass path info levels').Arrives (fill' x') () (fill' x')
          (plan.Emptied path x x') := by
  obtain ⟨verdict, between, stops, attends, rest, all⟩ := Tour.bind_ok ok
  have seen : plan.seen path info := by
    refine sees ⟨path, some info⟩ ?_ info rfl
    rw [Plan.pass, all]
    refine List.mem_append_left _ ?_
    have logged : (plan.sweep.attend path info (fill x)).stops = stops :=
      congrArg Trip.stops attends
    rw [← logged]
    exact List.mem_cons_self
  have ran : RanAll opened x (plan.acts path info) verdict
      (Act.runAll (.here opened) path.name (plan.acts path info) x).state := by
    refine ranAll_of_runAll ?_
    have result := congrArg Trip.result attends
    rwa [attend_within context] at result
  have is : between = fill (Act.runAll (.here opened) path.name (plan.acts path info) x).state := by
    have state := congrArg Trip.state attends
    rw [attend_within context] at state
    exact state.symm
  -- The value between the acts and what lies below the field.
  generalize (Act.runAll (.here opened) path.name (plan.acts path info) x).state = y at ran is
  subst is
  cases verdict with
  | descend =>
    rw [pass_descend attends] at ok sees ⊢
    obtain ⟨y', is, grows, closed, again⟩ :=
      settled_below settles context deep (eq_or_filled_of_ranAll ran) ok (sees_append sees).2
    refine ⟨y', is, fun shut => (closed shut).trans (eq_of_ranAll shut ran), ?_⟩
    intro levels' deep' fill' context'
    exact (attend_again context' seen ran grows closed).bind (again levels' deep' fill' context')
  | skip =>
    rw [pass_skip attends]
    refine ⟨y, rfl, fun shut => eq_of_ranAll shut ran, fun levels' _ fill' context' => ?_⟩
    have again : (plan.sweep.attend path info).Arrives (fill' y) .skip (fill' y)
        (plan.Emptied path x y) := attend_again context' seen ran (.inl rfl) fun _ => rfl
    exact again.bind (Tour.arrives_of_eq rfl)

/-! ## One of several values -/

theorem set_self {vs : List Value} {index : Nat} {x : Value} (found : vs[index]? = some x) :
    vs.set index x = vs := by
  obtain ⟨inside, rfl⟩ := List.getElem?_eq_some_iff.mp found
  exact List.set_getElem_self inside

section one

variable {wrap : List Value → Value} {index : Nat} {step : Step} {addition : String} {wide : Bool}
  {vs : List Value} {x x' : Value} {part : Nat → Tour Value Unit}

/-- The context of one of the values that are wrapped up in a context. -/
theorem context_one (context : Context path.steps fill opened)
    (frame : ∀ vs : List Value, index < vs.length →
      Value.Frame step (fun u => wrap (vs.set index u)) wide)
    (found : vs[index]? = some x) :
    Context (path.push step addition).steps (fun u => fill (wrap (vs.set index u)))
      (opened && wide) := by
  obtain ⟨inside, -⟩ := List.getElem?_eq_some_iff.mp found
  rw [steps_push]
  exact context.around (frame vs inside)

theorem follow_one
    (frame : ∀ vs : List Value, index < vs.length →
      Value.Frame step (fun u => wrap (vs.set index u)) wide)
    (found : vs[index]? = some x) : (wrap vs).follow step = some x := by
  obtain ⟨inside, -⟩ := List.getElem?_eq_some_iff.mp found
  have follows := (frame vs inside).follow x
  rwa [set_self found] at follows

/-- What is made of one of several values, by a part that is settled with it. -/
theorem mends_one
    (frame : ∀ vs : List Value, index < vs.length →
      Value.Frame step (fun u => wrap (vs.set index u)) wide)
    (found : vs[index]? = some x) (closed : (opened && wide) = false → x' = x)
    (again : ∀ levels, x'.depth ≤ levels → ∀ fill,
      Context (path.push step addition).steps fill (opened && wide) →
      (part levels).Arrives (fill x') () (fill x') (plan.Emptied (path.push step addition) x x')) :
    Mends plan wrap path opened (· = index) part vs (vs.set index x') where
  length := List.length_set
  closed shut := by
    rw [closed (by rw [shut, Bool.false_and]), set_self found]
  others j ne := List.getElem?_set_ne (Ne.symm ne)
  again us us' agree levels deep fill context := by
    obtain ⟨inside, -⟩ := List.getElem?_eq_some_iff.mp found
    obtain ⟨old, new⟩ := agree index rfl
    rw [found] at old
    rw [List.getElem?_set_self inside] at new
    have below := again levels (deep x' (List.mem_of_getElem? new)) _
      (context_one context frame new)
    rw [set_self new] at below
    exact below.weaken fun e =>
      emptied_push (follow_one frame old) (follow_one frame new)

end one

/-- Going through one field of a structure. -/
theorem minds_pass (settles : plan.Settles levels) (context : Context path.steps fill opened)
    {type : RecordType} {index : Nat} (is : type.fields[index]? = some info) (segment : String) :
    Minds plan (.record type) path fill opened levels (· = index)
      (plan.pass (path.pushField index segment) info) := by
  intro vs deep ok sees
  have unreached : ∀ {fill : Value → Value} {us : List Value}, Context path.steps fill opened →
      Value.fieldAt type us index = none →
      (fill (.record type us)).resolve (path.pushField index segment).steps = none := by
    intro fill us context unshown
    rw [FieldPath.pushField, resolve_push, context.resolve]
    exact unshown
  cases shown : Value.fieldAt type vs index with
  | none =>
    have stuck : ∀ l : Literal, (fill (.record type vs)).update (Value.set l)
        (path.pushField index segment).steps = none := by
      intro l
      rw [FieldPath.pushField, steps_push]
      exact context.update_of_unshown shown _
    have unshown := unreached context shown
    refine ⟨vs, (pass_unreached unshown unshown stuck ok).1, mends_still ?_⟩
    intro us' agree levels' fill' context'
    have shown' : Value.fieldAt type us' index = none := by
      rw [Value.fieldAt, agree index rfl]
      exact shown
    exact (pass_unreached unshown (unreached context' shown') stuck ok).2 levels'
  | some x =>
    obtain ⟨info', is', access, found⟩ := Value.fieldAt_eq_some_iff.mp shown
    cases is.symm.trans is'
    have frame := Value.frame_field is access
    have inner : Context (path.pushField index segment).steps
        (fun u => fill (.record type (vs.set index u))) (opened && info.access == .full) :=
      context_one context frame found
    have whole : Value.record type vs = .record type (vs.set index x) := by rw [set_self found]
    rw [whole] at ok sees ⊢
    obtain ⟨x', left, closed, again⟩ :=
      settled_pass settles inner (deep index rfl x found) ok sees
    exact ⟨vs.set index x', left, mends_one frame found closed again⟩

theorem minds_visit (settles : plan.Settles levels) (context : Context path.steps fill opened)
    {type : RecordType} {index : Nat} (is : type.fields[index]? = some info) :
    Minds plan (.record type) path fill opened levels (· = index)
      fun n => plan.sweep.visit (plan.descend n) path index info := by
  simp only [visit_eq]
  cases info.exported with
  | true => exact minds_pass settles context is _
  | false => exact minds_pure

/-- Going into one element of a sequence. -/
theorem minds_enter (settles : plan.Settles levels) (context : Context path.steps fill opened)
    (index : Nat) :
    Minds plan .seq path fill opened levels (· = index)
      fun n => plan.sweep.enter (plan.descend n) path index := by
  intro vs deep ok sees
  beta_reduce at ok sees ⊢
  have reads : ∀ {fill : Value → Value} {us : List Value}, Context path.steps fill opened →
      (fill (.seq us)).resolve (path.pushIndex index).steps = us[index]? := by
    intro fill us context
    rw [FieldPath.pushIndex, resolve_push, context.resolve]
    rfl
  by_cases structured : ∃ x type fields, vs[index]? = some x ∧ x.indirect = .record type fields
  · obtain ⟨x, type, fields, found, is⟩ := structured
    have inner : Context (path.pushIndex index).steps (fun u => fill (.seq (vs.set index u)))
        (opened && true) := context_one context Value.frame_item found
    have enters : plan.sweep.enter (plan.descend levels) path index (fill (.seq vs)) =
        plan.descend levels (path.pushIndex index) (fill (.seq vs)) :=
      sweep_enter_record ((reads context).trans found) is
    have whole : Value.seq vs = .seq (vs.set index x) := by rw [set_self found]
    rw [enters, whole] at ok sees ⊢
    obtain ⟨x', left, settled⟩ := settles _ _ _ x inner (deep index rfl x found) ok sees
    have again : ∀ levels', x'.depth ≤ levels' → ∀ fill',
        Context (path.pushIndex index).steps fill' (opened && true) →
        (plan.sweep.enter (plan.descend levels') path index).Arrives (fill' x') () (fill' x')
          (plan.Emptied (path.pushIndex index) x x') := by
      intro levels' deep' fill' context'
      by_cases structured : ∃ type fields, x'.indirect = .record type fields
      · obtain ⟨type, fields, is⟩ := structured
        have again := settled.again levels' deep' fill' context'
        rwa [Tour.Arrives, Plan.sweep, sweep_enter_record (context'.resolve x') is]
      · refine Tour.arrives_of_eq (sweep_enter_other fun v type fields leads is => ?_)
        rw [context'.resolve] at leads
        cases leads
        exact structured ⟨type, fields, is⟩
    exact ⟨vs.set index x', left, mends_one Value.frame_item found settled.closed again⟩
  · have skips : ∀ (us' : List Value), us'[index]? = vs[index]? → ∀ levels' fill',
        Context path.steps fill' opened →
        plan.sweep.enter (plan.descend levels') path index (fill' (.seq us')) =
          ⟨.ok (), fill' (.seq us'), []⟩ := by
      intro us' agree levels' fill' context'
      refine sweep_enter_other fun v type fields leads is => ?_
      rw [reads context', agree] at leads
      exact structured ⟨v, type, fields, leads, is⟩
    refine ⟨vs, ?_, mends_still fun us' agree levels' fill' context' =>
      ⟨[], skips us' (agree index rfl) levels' fill' context'⟩⟩
    rw [skips vs rfl levels fill context]

/-! ## Loops -/

theorem minds_fields (settles : plan.Settles levels) (context : Context path.steps fill opened)
    {type : RecordType} (index : Nat) {infos : List FieldInfo}
    (are : type.fields.drop index = infos) :
    Minds plan (.record type) path fill opened levels (index ≤ ·)
      fun n => plan.sweep.fields (plan.descend n) path index infos := by
  induction infos generalizing index with
  | nil => exact minds_pure
  | cons info infos ih =>
    have is : type.fields[index]? = some info := by
      rw [← Nat.add_zero index, ← List.getElem?_drop, are]
      rfl
    have others : type.fields.drop (index + 1) = infos := by
      rw [← List.drop_drop, are]
      rfl
    simp only [Conduct.fields_cons]
    refine (minds_visit settles context is).seq (ih (index + 1) others) ?_ ?_ <;> intro j <;> omega

theorem minds_items (settles : plan.Settles levels) (context : Context path.steps fill opened)
    {indices : List Nat} (nodup : indices.Nodup) :
    Minds plan .seq path fill opened levels (· ∈ indices)
      fun n => plan.sweep.items (plan.descend n) path indices := by
  induction indices with
  | nil => exact minds_pure
  | cons index indices ih =>
    rw [List.nodup_cons] at nodup
    simp only [Conduct.items_cons]
    refine (minds_enter settles context index).seq (ih nodup.2) ?_ fun j => List.mem_cons
    rintro _ rfl
    exact nodup.1

/-! ## Whole sweeps -/

/-- What is made of a structure. -/
theorem settles_record (settles : plan.Settles levels) (context : Context path.steps fill opened)
    {type : RecordType} {vs : List Value} (deep : (Value.record type vs).depth ≤ levels + 1)
    (ok : (plan.descend (levels + 1) path (fill (.record type vs))).result = .ok ())
    (sees : plan.Sees (plan.descend (levels + 1) path (fill (.record type vs))).stops) :
    ∃ u', (plan.descend (levels + 1) path (fill (.record type vs))).state = fill u' ∧
      plan.Settled path opened (.record type vs) u' := by
  have goes : ∀ {fill} (_ : Context path.steps fill opened) (n : Nat) (vs : List Value),
      plan.descend (n + 1) path (fill (.record type vs)) =
        (plan.sweep.fields (plan.descend n) path 0 type.fields >>= fun _ => .stop path none)
          (fill (.record type vs)) :=
    fun context n vs => sweep_descend_record (context.resolve _)
  rw [goes context] at ok sees ⊢
  obtain ⟨_, between, stops, ran, -, all⟩ := Tour.bind_ok ok
  rw [all] at sees ⊢
  rw [Value.depth] at deep
  have mended := minds_fields settles context 0 (List.drop_zero (l := type.fields)) vs
  beta_reduce at mended
  rw [ran] at mended
  obtain ⟨vs', is, mends⟩ := mended
    (fun j _ v found => by
      have bound := Value.depth_le_greatestDepth (List.mem_of_getElem? found)
      omega)
    rfl (sees_append sees).1
  refine ⟨.record type vs', is, ?_⟩
  constructor
  · exact fun shut => congrArg _ (mends.closed shut)
  · exact .inr ⟨fun filled => (by cases filled), .inr ⟨type, vs', rfl⟩⟩
  · intro n deep' fill' context'
    rw [Value.depth] at deep'
    obtain ⟨n, rfl⟩ := Nat.exists_eq_add_of_le' (Nat.le_of_add_left_le deep')
    rw [Tour.Arrives, goes context']
    have again := mends.again vs vs' (fun _ _ => ⟨rfl, rfl⟩) n
      (fun v mem => by
        have bound := Value.depth_le_greatestDepth mem
        omega)
      fill' context'
    exact again.bind (Tour.arrives_of_eq rfl)

/-- What is made of a sequence. -/
theorem settles_seq (settles : plan.Settles levels) (context : Context path.steps fill opened)
    {vs : List Value} (deep : (Value.seq vs).depth ≤ levels + 1)
    (ok : (plan.descend (levels + 1) path (fill (.seq vs))).result = .ok ())
    (sees : plan.Sees (plan.descend (levels + 1) path (fill (.seq vs))).stops) :
    ∃ u', (plan.descend (levels + 1) path (fill (.seq vs))).state = fill u' ∧
      plan.Settled path opened (.seq vs) u' := by
  have goes : ∀ {fill} (_ : Context path.steps fill opened) (n : Nat) (vs : List Value),
      plan.descend (n + 1) path (fill (.seq vs)) =
        plan.sweep.items (plan.descend n) path (List.range vs.length) (fill (.seq vs)) :=
    fun context n vs => sweep_descend_seq (context.resolve _) rfl
  rw [goes context] at ok sees ⊢
  rw [Value.depth] at deep
  obtain ⟨vs', is, mends⟩ := minds_items settles context List.nodup_range vs
    (fun j _ v found => by
      have bound := Value.depth_le_greatestDepth (List.mem_of_getElem? found)
      omega)
    ok sees
  refine ⟨.seq vs', is, ?_⟩
  constructor
  · exact fun shut => congrArg _ (mends.closed shut)
  · cases vs' with
    | nil => exact .inl (by rw [List.eq_nil_of_length_eq_zero mends.length.symm])
    | cons v vs' => exact .inr ⟨fun filled => (by cases filled), .inl rfl⟩
  · intro n deep' fill' context'
    rw [Value.depth] at deep'
    obtain ⟨n, rfl⟩ := Nat.exists_eq_add_of_le' (Nat.le_of_add_left_le deep')
    rw [Tour.Arrives, goes context', mends.length]
    exact mends.again vs vs' (fun _ _ => ⟨rfl, rfl⟩) n
      (fun v mem => by
        have bound := Value.depth_le_greatestDepth mem
        omega)
      fill' context'

/-- What is made of what a pointer leads to. -/
theorem settles_pointer (settles : plan.Settles levels) (context : Context path.steps fill opened)
    {wrap : Value → Value} (frame : Value.Frame .deref wrap true)
    (points : ∀ t, (wrap t).view = .pointer t) (whole : ∀ t, (wrap t).isZero = false)
    (filled : ∀ t, (wrap t).Filled → t.Filled) (deeper : ∀ t, (wrap t).depth = t.depth + 1)
    {t : Value} (deep : (wrap t).depth ≤ levels + 1)
    (ok : (plan.descend (levels + 1) path (fill (wrap t))).result = .ok ())
    (sees : plan.Sees (plan.descend (levels + 1) path (fill (wrap t))).stops) :
    ∃ u', (plan.descend (levels + 1) path (fill (wrap t))).state = fill u' ∧
      plan.Settled path opened (wrap t) u' := by
  have goes : ∀ {fill} (_ : Context path.steps fill opened) (n : Nat) (t : Value),
      plan.descend (n + 1) path (fill (wrap t)) =
        plan.descend n path.pushDeref (fill (wrap t)) :=
    fun context n t => sweep_descend_pointer (context.resolve _) (points t)
  have inner : ∀ {fill}, Context path.steps fill opened →
      Context path.pushDeref.steps (fun t => fill (wrap t)) opened := by
    intro fill context
    rw [FieldPath.pushDeref, steps_push, ← Bool.and_true opened]
    exact context.around frame
  rw [goes context] at ok sees ⊢
  rw [deeper] at deep
  obtain ⟨t', is, settled⟩ := settles _ _ _ t (inner context) (by omega) ok sees
  refine ⟨wrap t', is, ?_⟩
  constructor
  · exact fun shut => congrArg wrap (settled.closed shut)
  · rcases settled.grows with rfl | ⟨unfilled, -⟩
    · exact .inl rfl
    · exact .inr ⟨fun full => unfilled (filled t full), .inl (whole t')⟩
  · intro n deep' fill' context'
    rw [deeper] at deep'
    obtain ⟨n, rfl⟩ := Nat.exists_eq_add_of_le' (Nat.le_of_add_left_le deep')
    rw [Tour.Arrives, goes context']
    have again := settled.again n (by omega) _ (inner context')
    exact again.weaken fun e => emptied_push (frame.follow t) (frame.follow t')

/-- A sweep that goes well, in any context, leaves a value on which it goes well again and which
it then leaves as it is, unless some field has been emptied. -/
theorem settles (plan : Plan) (levels : Nat) : plan.Settles levels := by
  induction levels with
  | zero =>
    intro path fill opened u context deep ok sees
    -- A value without depth has no structure in it, and sweeps of any depth do nothing.
    have still := Value.everyType_of_depth (p := fun _ => False) (Nat.le_zero.mp deep)
    exact ⟨u, rfl, settled_of_still fun n _ context => descend_still context still n⟩
  | succ levels ih =>
    intro path fill opened u context deep ok sees
    have still : (∀ levels fill, Context path.steps fill opened →
        plan.descend levels path (fill u) = ⟨.ok (), fill u, []⟩) →
        ∃ u', (plan.descend (levels + 1) path (fill u)).state = fill u' ∧
          plan.Settled path opened u u' :=
      fun still => ⟨u, by rw [still _ fill context], settled_of_still still⟩
    cases u with
    | record type vs => exact settles_record ih context deep ok sees
    | seq vs => exact settles_seq ih context deep ok sees
    | present content t =>
      refine settles_pointer ih context (Value.frame_present content) (fun _ => rfl) (fun _ => rfl)
        (fun t filled => ?_) (fun _ => rfl) deep ok sees
      cases filled
      assumption
    | boxed t =>
      refine settles_pointer ih context Value.frame_boxed (fun _ => rfl) (fun _ => rfl)
        (fun t filled => ?_) (fun _ => rfl) deep ok sees
      cases filled
      assumption
    | map _ | entry _ _ =>
      exact still fun n fill context => sweep_flat plan.config plan.acts n (context.resolve _)
        (by simp [Value.view, View.kind])
    | bool _ | integer _ _ | single _ | double _ | text _ | fixedText _ | json _ | absent _ =>
      exact still fun n fill context => descend_still context (by simp [Value.EveryType]) n

end plan

end RecordRules

import Mathlib.Data.List.Nodup
import RecordRules.Proofs.Engine.Surveying
import RecordRules.Proofs.Value.Parts

/-!
# Deeds in different places

What is done inside a value is done at places that end in the place of the value.  So what is
done inside different fields of a structure, or inside different parts of a value, is done at
different places, and it takes no look at the places themselves to see this.

A validator can only do something twice if more than one of its leaves goes into nested
structures (`ensures_runAt`).
-/

namespace RecordRules

/-! ## What is written down -/

/-- The log is of things that are done inside the value at a place, each of them once.  The
structure there may have been checked itself, but it has not been dispatched as a field. -/
structure Inside (place : Place) (own : Prop) (deeds : List Deed) : Prop where
  under : ∀ deed ∈ deeds, place <:+ deed.place
  undispatched : .dispatch place ∉ deeds
  own : .selfCheck place ∈ deeds → own
  nodup : deeds.Nodup

/-- The log is of things that are done at some spots of the value at a place or inside of what
is there, each of them once. -/
structure Spread (place : Place) (spots : List Spot) (deeds : List Deed) : Prop where
  under : ∀ deed ∈ deeds, ∃ spot ∈ spots, (spot :: place) <:+ deed.place
  nodup : deeds.Nodup

section logs

variable {place : Place} {spot : Spot} {spots : List Spot} {own : Prop} {deeds deeds' : List Deed}

theorem inside_nil (place : Place) (own : Prop) : Inside place own [] where
  under := List.forall_mem_nil _
  undispatched := List.not_mem_nil
  own mem := absurd mem List.not_mem_nil
  nodup := .nil

theorem spread_nil (place : Place) (spots : List Spot) : Spread place spots [] where
  under := List.forall_mem_nil _
  nodup := .nil

/-- A place is not below itself. -/
theorem ne_of_under {place place' : Place} (under : (spot :: place) <:+ place') :
    place' ≠ place := by
  intro same
  have length := under.length_le
  rw [same, List.length_cons] at length
  omega

/-- Different spots of one value part for good. -/
theorem spot_eq {spot' : Spot} {place' : Place} (under : (spot :: place) <:+ place')
    (under' : (spot' :: place) <:+ place') : spot = spot' := by
  have longer : (spot :: place) <:+ (spot' :: place) :=
    List.suffix_of_suffix_length_le under under' (Nat.le_refl _)
  exact (List.cons.inj (longer.eq_of_length rfl)).1

theorem Spread.inside (spread : Spread place spots deeds) (own : Prop) :
    Inside place own deeds where
  under deed mem := by
    obtain ⟨spot, -, under⟩ := spread.under deed mem
    exact (List.suffix_cons spot place).trans under
  undispatched mem := by
    obtain ⟨spot, -, under⟩ := spread.under _ mem
    exact ne_of_under under rfl
  own mem := by
    obtain ⟨spot, -, under⟩ := spread.under _ mem
    exact absurd rfl (ne_of_under under)
  nodup := spread.nodup

/-- After its fields have been walked, a structure may be checked itself. -/
theorem Inside.selfChecked (fields : Inside place False deeds) (holds : own) :
    Inside place own (deeds ++ [.selfCheck place]) := by
  refine ⟨fun deed mem => ?_, fun mem => ?_, fun _ => holds, ?_⟩
  · rcases List.mem_append.mp mem with field | last
    · exact fields.under deed field
    · rw [List.mem_singleton.mp last]
      exact List.suffix_refl place
  · rcases List.mem_append.mp mem with field | last
    · exact fields.undispatched field
    · cases List.mem_singleton.mp last
  · refine List.Nodup.append fields.nodup (List.nodup_singleton _) ?_
    intro deed field last
    rw [List.mem_singleton.mp last] at field
    exact fields.own field

theorem Inside.spread (inside : Inside (spot :: place) own deeds) : Spread place [spot] deeds where
  under deed mem := ⟨spot, List.mem_singleton_self spot, inside.under deed mem⟩
  nodup := inside.nodup

/-- A field is dispatched before anything is done inside of it. -/
theorem Inside.dispatched (inside : Inside (spot :: place) own deeds) :
    Spread place [spot] (.dispatch (spot :: place) :: deeds) where
  under := by
    refine List.forall_mem_cons.mpr ⟨?_, inside.spread.under⟩
    exact ⟨spot, List.mem_singleton_self spot, List.suffix_refl _⟩
  nodup := List.nodup_cons.mpr ⟨inside.undispatched, inside.nodup⟩

/-- What is done behind the pointers of a value is done inside of it. -/
theorem Inside.of_behind {place : Place} (v : Value) (inside : Inside (v.behind place) own deeds) :
    Inside place own deeds := by
  match v with
  | .present _ target | .boxed target =>
    exact (Inside.of_behind target inside).spread.inside own
  | .bool _ | .integer _ _ | .single _ | .double _ | .text _ | .fixedText _ | .absent _ | .seq _
  | .map _ | .record _ _ | .entry _ _ | .json _ => exact inside

theorem Spread.skip (spread : Spread place spots deeds) : Spread place (spot :: spots) deeds where
  under deed mem := by
    obtain ⟨other, among, under⟩ := spread.under deed mem
    exact ⟨other, List.mem_cons_of_mem spot among, under⟩
  nodup := spread.nodup

/-- What is done at one spot, and then at others. -/
theorem Spread.cons (fresh : spot ∉ spots) (first : Spread place [spot] deeds)
    (rest : Spread place spots deeds') : Spread place (spot :: spots) (deeds ++ deeds') := by
  have here : ∀ deed ∈ deeds, (spot :: place) <:+ deed.place := by
    intro deed mem
    obtain ⟨other, among, under⟩ := first.under deed mem
    rwa [List.mem_singleton.mp among] at under
  refine ⟨fun deed mem => ?_, List.Nodup.append first.nodup rest.nodup ?_⟩
  · rcases List.mem_append.mp mem with now | later
    · exact ⟨spot, List.mem_cons_self, here deed now⟩
    · exact rest.skip.under deed later
  · intro deed now later
    obtain ⟨other, among, under⟩ := rest.under deed later
    rw [← spot_eq (here deed now) under] at among
    exact fresh among

theorem Spread.first (first : Spread place [spot] deeds) : Spread place (spot :: spots) deeds where
  under deed mem := by
    obtain ⟨other, among, under⟩ := first.under deed mem
    rw [List.mem_singleton.mp among] at under
    exact ⟨spot, List.mem_cons_self, under⟩
  nodup := first.nodup

end logs

/-! ## Work and its log -/

namespace Logged

variable {σ α β : Type} {I : σ → Prop} {P Q : α → List Deed → Prop} {W : β → List Deed → Prop}

/-- What logged work comes to and writes down where an invariant holds, which it keeps. -/
def Ensures (I : σ → Prop) (P : α → List Deed → Prop) (x : Logged σ α) : Prop :=
  ∀ state, I state → P (x state).result (x state).deeds ∧ I (x state).state

theorem ensures_pure {a : α} (holds : P a []) : (pure a : Logged σ α).Ensures I P :=
  fun _ invariant => ⟨holds, invariant⟩

theorem Ensures.weaken {x : Logged σ α} (ensures : x.Ensures I P) (weaker : ∀ a l, P a l → Q a l) :
    x.Ensures I Q :=
  fun state invariant => ⟨weaker _ _ (ensures state invariant).1, (ensures state invariant).2⟩

theorem Ensures.bind {x : Logged σ α} {f : α → Logged σ β} (first : x.Ensures I P)
    (second : ∀ a l, P a l → (f a).Ensures I fun b l' => W b (l ++ l')) :
    (x >>= f).Ensures I W := by
  intro state invariant
  obtain ⟨wrote, kept⟩ := first state invariant
  exact second _ _ wrote _ kept

/-- Work that writes nothing down. -/
theorem ensures_lift {x : StateM σ α} {post : α → Prop}
    (quiet : ∀ state, I state → post (x.run state).1 ∧ I (x.run state).2) :
    (lift x).Ensures I fun a l => l = [] ∧ post a :=
  fun state invariant => ⟨⟨rfl, (quiet state invariant).1⟩, (quiet state invariant).2⟩

/-- After work that writes nothing down. -/
theorem Ensures.silent {x : Logged σ α} {f : α → Logged σ β} {post : α → Prop}
    (first : x.Ensures I fun a l => l = [] ∧ post a) (second : ∀ a, post a → (f a).Ensures I W) :
    (x >>= f).Ensures I W := by
  refine first.bind fun a l wrote => ?_
  obtain ⟨rfl, known⟩ := wrote
  exact second a known

theorem ensures_log (deed : Deed) : (log deed : Logged σ Unit).Ensures I fun _ l => l = [deed] :=
  fun _ invariant => ⟨rfl, invariant⟩

end Logged

namespace Survey

variable {α β : Type} {I : WalkState → Prop} {P Q : Except Fatal α → List Deed → Prop}
  {W : Except Fatal β → List Deed → Prop}

/-- What a survey comes to and writes down where an invariant holds, which it keeps. -/
def Ensures (I : WalkState → Prop) (P : Except Fatal α → List Deed → Prop) (x : Survey α) : Prop :=
  Logged.Ensures I P x.run

theorem ensures_pure {a : α} (holds : P (.ok a) []) : (pure a : Survey α).Ensures I P :=
  Logged.ensures_pure holds

theorem ensures_throw {e : Fatal} (holds : P (.error e) []) :
    (throw e : Survey α).Ensures I P :=
  Logged.ensures_pure holds

theorem Ensures.weaken {x : Survey α} (ensures : x.Ensures I P)
    (weaker : ∀ result l, P result l → Q result l) : x.Ensures I Q :=
  Logged.Ensures.weaken ensures weaker

/-- Of two parts, the first may have ended early. -/
theorem Ensures.bind {x : Survey α} {f : α → Survey β} (first : x.Ensures I P)
    (early : ∀ e l, P (.error e) l → W (.error e) l)
    (second : ∀ a l, P (.ok a) l → (f a).Ensures I fun result l' => W result (l ++ l')) :
    (x >>= f).Ensures I W := by
  refine Logged.Ensures.bind first fun result l wrote => ?_
  cases result with
  | ok a => exact second a l wrote
  | error e =>
    refine Logged.ensures_pure ?_
    rw [List.append_nil]
    exact early e l wrote

theorem ensures_lift {x : Walk α} {post : Except Fatal α → Prop}
    (quiet : ∀ state, I state → post (x.run.run state).1 ∧ I (x.run.run state).2) :
    (lift x).Ensures I fun result l => l = [] ∧ post result :=
  Logged.ensures_lift quiet

theorem ensures_quiet {x : Walk α} (quiet : ∀ state, I state → I (x.run.run state).2) :
    (lift x).Ensures I fun _ l => l = [] ∧ True :=
  ensures_lift fun state invariant => ⟨trivial, quiet state invariant⟩

/-- After a part that writes nothing down. -/
theorem Ensures.silent {x : Survey α} {f : α → Survey β} {post : Except Fatal α → Prop}
    (first : x.Ensures I fun result l => l = [] ∧ post result) (early : ∀ e, W (.error e) [])
    (second : ∀ a, post (.ok a) → (f a).Ensures I W) : (x >>= f).Ensures I W := by
  refine first.bind (fun e l wrote => wrote.1 ▸ early e) fun a l wrote => ?_
  obtain ⟨rfl, known⟩ := wrote
  exact second a known

theorem ensures_get {f : WalkState → Survey β} (early : ∀ e, W (.error e) [])
    (each : ∀ state, I state → (f state).Ensures I W) : (lift get >>= f).Ensures I W := by
  have reads : (lift get).Ensures I fun result l =>
      l = [] ∧ ∀ state, result = .ok state → I state :=
    ensures_lift fun state invariant => ⟨fun _ is => by cases is; exact invariant, invariant⟩
  exact reads.silent early fun state known => each state (known state rfl)

theorem ensures_log (deed : Deed) : (log deed).Ensures I fun _ l => l = [deed] :=
  fun _ invariant => ⟨rfl, invariant⟩

end Survey

/-! ## Validators -/

/-- The log is of things that are done inside the value at a place, and there are none if there
is no leaf to do them. -/
structure Wrote (leaves : Nat) (place : Place) (deeds : List Deed) : Prop where
  inside : Inside place True deeds
  nothing : leaves = 0 → deeds = []

theorem wrote_nil (leaves : Nat) (place : Place) : Wrote leaves place [] :=
  ⟨inside_nil place True, fun _ => rfl⟩

/-- Of several validators with one leaf among them, one does something. -/
theorem Wrote.append {leaves leaves' : Nat} {place : Place} {deeds deeds' : List Deed}
    (few : leaves + leaves' ≤ 1) (first : Wrote leaves place deeds)
    (second : Wrote leaves' place deeds') : Wrote (leaves + leaves') place (deeds ++ deeds') := by
  have cases : leaves = 0 ∨ leaves' = 0 := by omega
  rcases cases with none | none
  · rw [first.nothing none, none, Nat.zero_add]
    exact second
  · rw [second.nothing none, none, List.append_nil, Nat.add_zero]
    exact first

namespace Validator

section run

variable {I : Workspace → Prop} {p : RecordType → Prop} {r : Place → Runner (Logged Workspace)}
  {root : Option Value}

/-- What the runner of a place does: a check does nothing that is written down, and a nested
structure is validated inside its place. -/
structure RunsInside (I : Workspace → Prop) (p : RecordType → Prop)
    (r : Place → Runner (Logged Workspace)) (root : Option Value) : Prop where
  check (place : Place) (c : Check) (v : Value) :
    ((r place).check c root v).Ensures I fun _ l => l = []
  nested (place : Place) {v : Value} : v.EveryType p →
    ((r place).nested root v).Ensures I fun _ l => Inside place True l

/-- Values at different spots, one after the other. -/
theorem ensures_runEach {α : Type} {run : α → Logged Workspace Outcome}
    {locate : α → Failure → Failure} (place : Place) {leaves : Nat} {spot : α → Spot} {as : List α}
    (apart : (as.map spot).Nodup)
    (each : ∀ a ∈ as, (run a).Ensures I fun _ l => Wrote leaves (spot a :: place) l) :
    (runEach run locate as).Ensures I fun _ l =>
      Spread place (as.map spot) l ∧ (leaves = 0 → l = []) := by
  induction as with
  | nil =>
    rw [runEach]
    exact Logged.ensures_pure ⟨spread_nil place _, fun _ => rfl⟩
  | cons a as ih =>
    rw [List.map_cons, List.nodup_cons] at apart
    have rest := ih apart.2 fun other mem => each other (List.mem_cons_of_mem a mem)
    rw [runEach]
    refine (each a List.mem_cons_self).bind fun outcome l wrote => ?_
    cases outcome with
    | ok _ =>
      refine rest.weaken fun _ l' others => ⟨?_, fun none => ?_⟩
      · exact wrote.inside.spread.cons apart.1 others.1
      · rw [wrote.nothing none, others.2 none, List.append_nil]
    | error e =>
      refine Logged.ensures_pure ?_
      rw [List.append_nil]
      exact ⟨wrote.inside.spread.first, wrote.nothing⟩

theorem nodup_spots {α : Type} (as : List α) (spot : Nat → Spot)
    (injective : Function.Injective spot) :
    (as.zipIdx.map fun a => spot a.2).Nodup := by
  have indices : (as.zipIdx.map fun a => spot a.2) = (as.zipIdx.map Prod.snd).map spot :=
    (List.map_map ..).symm
  rw [indices, List.zipIdx_map_snd]
  exact List.Nodup.map injective List.nodup_range'

mutual

/-- What a validator with few leaves writes down. -/
theorem ensures_runAt (runs : RunsInside I p r root) (w : Validator) (few : w.leaves ≤ 1)
    (place : Place) {v : Value} (every : v.EveryType p) :
    (w.runAt r root place v).Ensures I fun _ l => Wrote w.leaves place l := by
  have parts := Value.everyType_parts every
  rw [Value.parts] at parts
  match w with
  | .check c =>
    rw [runAt]
    refine (runs.check place c v).weaken fun _ l nothing => ?_
    rw [nothing]
    exact wrote_nil _ place
  | .nested =>
    rw [runAt, leaves]
    exact (runs.nested place every).weaken fun _ l inside => ⟨inside, fun none => by cases none⟩
  | .all ws =>
    rw [leaves] at few
    rw [runAt, leaves]
    exact ensures_runAllAt runs ws few place every
  | .any ws =>
    rw [leaves] at few
    rw [runAt, leaves]
    exact ensures_runAnyAt runs ws few (.ok ()) place every
  | .items inner =>
    rw [leaves] at few
    rw [runAt, leaves]
    generalize v.indirect.view = view at parts ⊢
    cases view with
    | seq elements =>
      have apart := nodup_spots elements (fun index => .step (.index index))
        fun a b same => by cases same; rfl
      refine (ensures_runEach (v.behind place) apart fun element mem => ?_).weaken
        fun _ l wrote => ⟨(wrote.1.inside True).of_behind v, wrote.2⟩
      exact ensures_runAt runs inner few _ (parts _ (List.fst_mem_of_mem_zipIdx mem))
    | _ => exact Logged.ensures_pure (wrote_nil _ place)
  | .parts part inner =>
    rw [leaves] at few
    rw [runAt, leaves]
    generalize v.indirect.view = view at parts ⊢
    cases view with
    | map entries =>
      have apart := nodup_spots entries (.part part) fun a b same => by cases same; rfl
      refine (ensures_runEach (v.behind place) apart fun entry mem => ?_).weaken
        fun _ l wrote => ⟨(wrote.1.inside True).of_behind v, wrote.2⟩
      have among := Value.target_mem_parts (List.fst_mem_of_mem_zipIdx mem) part
      exact ensures_runAt runs inner few _ (parts _ among)
    | _ => exact Logged.ensures_pure (wrote_nil _ place)
  | .not inner =>
    rw [leaves] at few
    rw [runAt, leaves]
    refine (ensures_runAt runs inner few place every).bind fun outcome l wrote => ?_
    cases outcome with
    | ok _ | error _ =>
      refine Logged.ensures_pure ?_
      rw [List.append_nil]
      exact wrote

theorem ensures_runAllAt (runs : RunsInside I p r root) (ws : List Validator)
    (few : allLeaves ws ≤ 1) (place : Place) {v : Value} (every : v.EveryType p) :
    (runAllAt r root ws place v).Ensures I fun _ l => Wrote (allLeaves ws) place l := by
  match ws with
  | [] =>
    rw [runAllAt]
    exact Logged.ensures_pure (wrote_nil _ place)
  | w :: ws =>
    rw [allLeaves] at few
    have rest := ensures_runAllAt runs ws (by omega) place every
    rw [runAllAt, allLeaves]
    refine (ensures_runAt runs w (by omega) place every).bind fun outcome l wrote => ?_
    cases outcome with
    | ok _ => exact rest.weaken fun _ l' others => wrote.append few others
    | error e => exact Logged.ensures_pure (wrote.append few (wrote_nil _ place))

theorem ensures_runAnyAt (runs : RunsInside I p r root) (ws : List Validator)
    (few : allLeaves ws ≤ 1) (soFar : Outcome) (place : Place) {v : Value}
    (every : v.EveryType p) :
    (runAnyAt r root ws soFar place v).Ensures I fun _ l => Wrote (allLeaves ws) place l := by
  match ws with
  | [] =>
    rw [runAnyAt]
    exact Logged.ensures_pure (wrote_nil _ place)
  | w :: ws =>
    rw [allLeaves] at few
    have rest := fun e => ensures_runAnyAt runs ws (by omega) (.error e) place every
    rw [runAnyAt, allLeaves]
    refine (ensures_runAt runs w (by omega) place every).bind fun outcome l wrote => ?_
    cases outcome with
    | ok _ => exact Logged.ensures_pure (wrote.append few (wrote_nil _ place))
    | error e => exact (rest e).weaken fun _ l' others => wrote.append few others

end

end run

end Validator

end RecordRules

import RecordRules.Proofs.Engine.Lasting
import RecordRules.Proofs.Engine.Stepping
import RecordRules.Proofs.Failure.Recording

/-!
# Walks that keep a log

A `Tour` is a walk that writes down where it has been: every field it attends to, and every
structure whose fields it has gone through.  Without the log it is the walk.

The log tells where failures come from: each one that is recorded is recorded at the path of
a stop.
-/

namespace RecordRules

/-- A stop of a walk: at a field, or, where there is none, at a structure when its fields have
been gone through. -/
structure Stop where
  path : FieldPath
  field : Option FieldInfo

/-- How a walk has gone: how it ended, what it left behind, and its stops in order. -/
structure Trip (σ α : Type) where
  result : Except Fatal α
  state : σ
  stops : List Stop

/-- A walk with a log; it may end early. -/
def Tour (σ α : Type) : Type :=
  σ → Trip σ α

namespace Tour

variable {σ α β : Type}

/-- Goes on with a second part after a first one has gone well. -/
def andThen (x : Tour σ α) (f : α → Tour σ β) : Tour σ β := fun state =>
  match x state with
  | ⟨.ok a, between, stops⟩ =>
    let rest := f a between
    ⟨rest.result, rest.state, stops ++ rest.stops⟩
  | ⟨.error e, after, stops⟩ => ⟨.error e, after, stops⟩

instance : Monad (Tour σ) where
  pure a := fun state => ⟨.ok a, state, []⟩
  bind := andThen

theorem andThen_pure (x : Tour σ α) : andThen x pure = x := by
  funext state
  rw [andThen]
  generalize x state = trip
  obtain ⟨result, between, stops⟩ := trip
  cases result with
  | error e => rfl
  | ok a => exact congrArg (Trip.mk _ _) (List.append_nil stops)

theorem andThen_assoc {γ : Type} (x : Tour σ α) (f : α → Tour σ β) (g : β → Tour σ γ) :
    andThen (andThen x f) g = andThen x fun a => andThen (f a) g := by
  funext state
  simp only [andThen]
  generalize x state = trip
  obtain ⟨result, between, stops⟩ := trip
  cases result with
  | error e => rfl
  | ok a =>
    dsimp only
    generalize f a between = trip
    obtain ⟨result, after, stops'⟩ := trip
    cases result with
    | error e => rfl
    | ok b => exact congrArg (Trip.mk _ _) (List.append_assoc _ _ _)

instance : LawfulMonad (Tour σ) :=
  LawfulMonad.mk' (Tour σ) andThen_pure (fun _ _ => rfl) andThen_assoc

theorem bind_apply (x : Tour σ α) (f : α → Tour σ β) (state : σ) :
    (x >>= f) state =
      match x state with
      | ⟨.ok a, between, stops⟩ =>
        ⟨(f a between).result, (f a between).state, stops ++ (f a between).stops⟩
      | ⟨.error e, after, stops⟩ => ⟨.error e, after, stops⟩ :=
  rfl

/-- Writes down a stop. -/
def stop (path : FieldPath) (field : Option FieldInfo) : Tour σ Unit := fun state =>
  ⟨.ok (), state, [⟨path, field⟩]⟩

/-- A walk, with nothing written down. -/
def lift (x : Walk α) : Tour WalkState α := fun state =>
  let ran := x.run.run state
  ⟨ran.1, ran.2, []⟩

/-- What a tour writes down, and what holds afterwards if it goes well. -/
def Ensures (I : σ → Prop) (P : List Stop → Prop) (post : α → Prop) (x : Tour σ α) : Prop :=
  ∀ state, I state →
    P (x state).stops ∧ ∀ a, (x state).result = .ok a → I (x state).state ∧ post a

section ensures

variable {I : σ → Prop} {P Q W : List Stop → Prop} {post : α → Prop} {post' : β → Prop}

theorem ensures_pure {a : α} (empty : P []) (holds : post a) :
    (pure a : Tour σ α).Ensures I P post := by
  refine fun state invariant => ⟨empty, fun b is => ?_⟩
  cases is
  exact ⟨invariant, holds⟩

theorem Ensures.weaken {x : Tour σ α} (ensures : x.Ensures I P post) (stops : ∀ l, P l → Q l) :
    x.Ensures I Q post :=
  fun state invariant => ⟨stops _ (ensures state invariant).1, (ensures state invariant).2⟩

/-- Of two parts, either the first has ended early, or both have written down what they do. -/
theorem Ensures.bind {x : Tour σ α} {f : α → Tour σ β} (first : x.Ensures I P post)
    (second : ∀ a, post a → (f a).Ensures I Q post') (early : ∀ l, P l → W l)
    (both : ∀ l l', P l → Q l' → W (l ++ l')) : (x >>= f).Ensures I W post' := by
  intro state invariant
  obtain ⟨wrote, holds⟩ := first state invariant
  rw [bind_apply]
  generalize x state = trip at wrote holds ⊢
  obtain ⟨result, between, stops⟩ := trip
  cases result with
  | error e => exact ⟨early stops wrote, fun b is => by cases is⟩
  | ok a =>
    obtain ⟨kept, known⟩ := holds a rfl
    obtain ⟨wrote', holds'⟩ := second a known between kept
    exact ⟨both stops _ wrote wrote', holds'⟩

/-- A first part that writes nothing down. -/
theorem Ensures.silent {x : Tour σ α} {f : α → Tour σ β} (first : x.Ensures I (· = []) post)
    (empty : Q []) (second : ∀ a, post a → (f a).Ensures I Q post') :
    (x >>= f).Ensures I Q post' := by
  refine first.bind second ?_ ?_
  · rintro _ rfl
    exact empty
  · rintro _ l rfl wrote
    exact wrote

end ensures

theorem bind_of_ok {x : Tour σ α} {f : α → Tour σ β} {state between : σ} {a : α}
    {stops : List Stop} (first : x state = ⟨.ok a, between, stops⟩) :
    (x >>= f) state =
      ⟨(f a between).result, (f a between).state, stops ++ (f a between).stops⟩ := by
  rw [bind_apply, first]

/-- Two parts that have gone well have each gone well. -/
theorem bind_ok {x : Tour σ α} {f : α → Tour σ β} {state : σ} {b : β}
    (ok : ((x >>= f) state).result = .ok b) :
    ∃ a between stops, x state = ⟨.ok a, between, stops⟩ ∧ (f a between).result = .ok b ∧
      (x >>= f) state =
        ⟨.ok b, (f a between).state, stops ++ (f a between).stops⟩ := by
  rw [bind_apply] at ok ⊢
  generalize x state = trip at ok ⊢
  obtain ⟨result, between, stops⟩ := trip
  cases result with
  | error e => cases ok
  | ok a => exact ⟨a, between, stops, rfl, ok, by rw [← ok]⟩

/-- A part goes well and gets to a state, or it ends early with an error of some kind. -/
def Arrives (x : Tour σ α) (state : σ) (a : α) (after : σ) (why : Fatal → Prop) : Prop :=
  ((x state).result = .ok a ∧ (x state).state = after) ∨ ∃ e, (x state).result = .error e ∧ why e

section arrives

variable {state between after : σ} {a : α} {b : β} {why : Fatal → Prop}

theorem arrives_of_eq {x : Tour σ α} {stops : List Stop} (is : x state = ⟨.ok a, after, stops⟩) :
    x.Arrives state a after why := by
  rw [Arrives, is]
  exact .inl ⟨rfl, rfl⟩

theorem Arrives.bind {x : Tour σ α} {f : α → Tour σ β} (first : x.Arrives state a between why)
    (second : (f a).Arrives between b after why) : (x >>= f).Arrives state b after why := by
  rw [Arrives, bind_apply]
  unfold Arrives at first
  generalize x state = trip at first ⊢
  obtain ⟨result, reached, stops⟩ := trip
  rcases first with ⟨ok, is⟩ | ⟨e, error, reason⟩
  · dsimp only at ok is
    subst ok is
    exact second
  · dsimp only at error
    subst error
    exact .inr ⟨e, rfl, reason⟩

theorem arrives_of_error {x : Tour σ α} (f : α → Tour σ β) {e : Fatal}
    (error : (x state).result = .error e) (reason : why e) :
    (x >>= f).Arrives state b after why := by
  rw [Arrives, bind_apply]
  generalize x state = trip at error ⊢
  obtain ⟨result, reached, stops⟩ := trip
  subst error
  exact .inr ⟨e, rfl, reason⟩

theorem Arrives.weaken {x : Tour σ α} {why' : Fatal → Prop} (arrives : x.Arrives state a after why)
    (weaker : ∀ e, why e → why' e) : x.Arrives state a after why' := by
  rcases arrives with well | ⟨e, error, reason⟩
  · exact .inl well
  · exact .inr ⟨e, error, weaker e reason⟩

end arrives

theorem stop_bind (path : FieldPath) (field : Option FieldInfo) (x : Tour σ α) (state : σ) :
    (do stop path field; x : Tour σ α) state =
      ⟨(x state).result, (x state).state, ⟨path, field⟩ :: (x state).stops⟩ :=
  rfl

end Tour

namespace Walk

/-- How many failures have been recorded. -/
def count : Walk Nat := do
  return (← get).recorded

/-- What a walk does on its way, with a log. -/
def tour (s : WalkSetting) : Conduct (Tour WalkState) where
  look path := .lift (resolve path)
  config := .lift config
  attend path info := do
    .stop path info
    .lift (dispatchBy runHandler s path info (annotationPairs info.tag))
  enclose path x := do
    let before ← Tour.lift count
    x
    .stop path none
    .lift (selfValidate s path before)

end Walk

/-! ## The walk of a tour -/

/-- A walk, and the same with a log. -/
def erasing : MonadRelation Walk (Tour WalkState) where
  Rel x y := ∀ state, x.run.run state = ((y state).result, (y state).state)
  pure _ _ := rfl
  bind {α β x y f g} first second state := by
    rw [run_bind, first, Tour.bind_apply]
    generalize y state = trip
    obtain ⟨result, between, stops⟩ := trip
    cases result with
    | error e => rfl
    | ok a => exact second a between

theorem erasing_lift {α : Type} (x : Walk α) : erasing.Rel x (.lift x) :=
  fun _ => rfl

theorem erasing_stop {α : Type} (path : FieldPath) (field : Option FieldInfo) {x : Walk α}
    {y : Tour WalkState α} (rest : erasing.Rel x y) : erasing.Rel x (do .stop path field; y) :=
  rest

theorem related_tour (s : WalkSetting) :
    Conduct.Related erasing (fun _ => True) (Walk.conduct Walk.runHandler s) (Walk.tour s) where
  look path _ _ next :=
    erasing.bind (erasing_lift (Walk.resolve path)) fun value => next value fun _ _ _ => trivial
  config := erasing_lift _
  attend path _ info _ _ := erasing_stop path (some info) (erasing_lift _)
  enclose path _ _ fields := by
    have own := fun before =>
      erasing_stop path none (erasing_lift (Walk.selfValidate s path before))
    exact erasing.bind (erasing_lift Walk.count) fun before =>
      erasing.bind fields fun _ => own before

/-- Without its log, a tour is the walk. -/
theorem run_descend (s : WalkSetting) (levels : Nat) (path : FieldPath) (state : WalkState) :
    (Walk.descend s levels path).run.run state =
      (((Walk.tour s).descend levels path state).result,
        ((Walk.tour s).descend levels path state).state) := by
  rw [← Walk.descendBy_runHandler, ← Walk.descend_conduct]
  exact (related_tour s).descend levels path state

/-- The tour that a walk with a registry of the engine makes. -/
def Engine.tourWith (registry : RegistryName) (settable selfValidate : Bool)
    (outer : Option Value) (v : Value) (w : Workspace) : Trip WalkState Unit :=
  let s : WalkSetting :=
    { registry, settable, selfValidate, outer, nested := validateNestedWithin v.depth }
  (Walk.tour s).descend v.depth .root { work := w, root := v }

theorem run_walkWith (registry : RegistryName) (settable selfValidate : Bool)
    (outer : Option Value) (v : Value) (w : Workspace) :
    (Engine.walkWith registry settable selfValidate outer v).run w =
      let trip := Engine.tourWith registry settable selfValidate outer v w
      (⟨trip.result, trip.state.root, trip.state.failures⟩, trip.state.work) := by
  rw [Engine.walkWith, ← walkValueBy_runHandler, run_walkValueBy, Walk.descendBy_runHandler,
    run_descend]
  rfl

/-! ## Where failures are recorded -/

/-- A failure that was recorded at a stop. -/
abbrev Finding := Stop × Failure

/-- The failures with the names under which they were recorded. -/
def Finding.entries (findings : List Finding) : List (String × Failure) :=
  findings.map fun finding => (finding.1.path.name, finding.2)

/-- Between two states, failures have been recorded, and nothing else that counts as one. -/
structure WalkState.Recorded (before after : WalkState) (entries : List (String × Failure)) :
    Prop where
  failures : after.failures = before.failures.recordAll entries
  recorded : after.recorded = before.recorded + entries.length

theorem recorded_append {before between after : WalkState}
    {entries entries' : List (String × Failure)}
    (first : before.Recorded between entries) (second : between.Recorded after entries') :
    before.Recorded after (entries ++ entries') where
  failures := by rw [Failures.recordAll_append, ← first.failures, second.failures]
  recorded := by rw [second.recorded, first.recorded, List.length_append, Nat.add_assoc]

/-- Walks that record failures under one name. -/
def recordingAt (name : String) : MonadRelation Walk Walk where
  Rel x _ := ∀ state : WalkState, ∃ recorded : List Failure,
    state.Recorded (x.run.run state).2 (recorded.map fun e => (name, e))
  pure _ _ := ⟨[], rfl, rfl⟩
  bind {α β x y f g} first second state := by
    obtain ⟨recorded, adds⟩ := first state
    rw [run_bind]
    generalize x.run.run state = after at adds ⊢
    obtain ⟨result, after⟩ := after
    cases result with
    | error e => exact ⟨recorded, adds⟩
    | ok a =>
      obtain ⟨recorded', adds'⟩ := second a after
      refine ⟨recorded ++ recorded', ?_⟩
      rw [List.map_append]
      exact recorded_append adds adds'

theorem recordingAt_quiet {α : Type} {name : String} {x y : Walk α}
    (quiet : ∀ state : WalkState, state.Recorded (x.run.run state).2 []) :
    (recordingAt name).Rel x y :=
  fun state => ⟨[], quiet state⟩

/-- An assignment changes nothing but the value that is walked. -/
theorem run_assign (s : WalkSetting) (path : FieldPath) (l : Literal) (state : WalkState) :
    ∃ root, ((Walk.assign s path l).run.run state).2 = { state with root } := by
  have assigning := run_assigning s path l state
  generalize (Walk.assign s path l).run.run state = after at assigning
  cases assigning with
  | unsettable _ | unresolved _ => exact ⟨state.root, rfl⟩
  | assigned _ => exact ⟨_, rfl⟩

/-- The handlers of a field record failures under its name alone. -/
theorem respects_recordingAt (s : WalkSetting) (path : FieldPath) :
    Respects (recordingAt path.name) (fun _ => True) s path where
  get each state := each state trivial state
  throw e := recordingAt_quiet fun _ => ⟨rfl, rfl⟩
  argumentOf h pair := recordingAt_quiet fun state => by
    obtain ⟨result, work, runs, -⟩ := argumentOf_run s h pair state
    rw [runs]
    exact ⟨rfl, rfl⟩
  validate validator value state _ := recordingAt_quiet fun _ => ⟨rfl, rfl⟩
  note notes := recordingAt_quiet fun _ => ⟨rfl, rfl⟩
  record e := fun _ => ⟨[e], rfl, rfl⟩
  assign l := recordingAt_quiet fun state => by
    obtain ⟨root, after⟩ := run_assign s path l state
    rw [after]
    exact ⟨rfl, rfl⟩

/-- Tours whose failures are recorded at their stops. -/
def chronicling : MonadRelation (Tour WalkState) (Tour WalkState) where
  Rel x _ := ∀ state : WalkState, ∃ findings : List Finding,
    state.Recorded (x state).state (Finding.entries findings) ∧
      ∀ finding ∈ findings, finding.1 ∈ (x state).stops
  pure _ _ := ⟨[], ⟨rfl, rfl⟩, List.forall_mem_nil _⟩
  bind {α β x y f g} first second state := by
    obtain ⟨findings, adds, among⟩ := first state
    rw [Tour.bind_apply]
    generalize x state = trip at adds among ⊢
    obtain ⟨result, between, stops⟩ := trip
    cases result with
    | error e => exact ⟨findings, adds, among⟩
    | ok a =>
      obtain ⟨findings', adds', among'⟩ := second a between
      refine ⟨findings ++ findings', ?_, List.forall_mem_append.mpr ⟨?_, ?_⟩⟩
      · rw [Finding.entries, List.map_append]
        exact recorded_append adds adds'
      · exact fun finding mem => List.mem_append_left _ (among finding mem)
      · exact fun finding mem => List.mem_append_right _ (among' finding mem)

/-- A part of a walk that records nothing. -/
theorem chronicling_lift {α : Type} {x : Walk α}
    (quiet : ∀ state : WalkState, state.Recorded (x.run.run state).2 []) :
    chronicling.Rel (.lift x) (.lift x) :=
  fun state => ⟨[], quiet state, List.forall_mem_nil _⟩

/-- What is recorded under the name of a stop is recorded at it. -/
theorem chronicling_stop {α : Type} {path : FieldPath} (field : Option FieldInfo) {x : Walk α}
    {y : Tour WalkState α} (records : (recordingAt path.name).Rel x x) :
    chronicling.Rel (do .stop path field; .lift x) y := by
  intro state
  obtain ⟨recorded, adds⟩ := records state
  refine ⟨recorded.map fun e => (⟨path, field⟩, e), ?_, ?_⟩
  · rw [Tour.stop_bind, Finding.entries, List.map_map]
    exact adds
  · intro finding mem
    obtain ⟨e, -, rfl⟩ := List.mem_map.mp mem
    exact List.mem_cons_self

theorem chronicling_descend (s : WalkSetting) (levels : Nat) (path : FieldPath) :
    chronicling.Rel ((Walk.tour s).descend levels path) ((Walk.tour s).descend levels path) := by
  have silent : ∀ {α : Type} {x : Walk α}, (∀ state, (x.run.run state).2 = state) →
      chronicling.Rel (.lift x) (.lift x) := fun quiet =>
    chronicling_lift fun state => (quiet state).symm ▸ ⟨rfl, rfl⟩
  have related : Conduct.Related chronicling (fun _ => True) (Walk.tour s) (Walk.tour s) :=
    { look := fun path f f' next => chronicling.bind (silent fun _ => rfl) fun value =>
        next value fun _ _ _ => trivial
      config := silent fun _ => rfl
      attend := fun path _ info _ _ =>
        chronicling_stop (some info) ((respects_recordingAt s path).dispatch info _)
      enclose := fun path x x' fields => chronicling.bind (silent fun _ => rfl) fun before =>
        chronicling.bind fields fun _ =>
          chronicling_stop none ((respects_recordingAt s path).selfValidate before) }
  exact related.descend levels path

end RecordRules

import Mathlib.Data.List.Pairwise
import RecordRules.Proofs.Engine.History
import RecordRules.Proofs.Engine.Naming

/-!
# Display paths do not collide

The names under which a walk shows the places where it stops are told apart as long as the
configuration and the structure types stay what they were.  No handler changes the
configuration, and no assignment that succeeds brings in a structure.
-/

namespace RecordRules

/-! ## Tours that can tell places apart -/

/-- A tour whose log is in order, as long as the structures it meets tell their fields apart. -/
structure Conduct.Logs {σ : Type} (I : σ → Prop) (config : Config) (c : Conduct (Tour σ)) :
    Prop where
  look (path : FieldPath) : (c.look path).Ensures I (· = []) fun value =>
    ∀ type fields, value.map Value.view = some (.record type fields) → type.Distinguishes config
  config : c.config.Ensures I (· = []) (· = config)
  attend (path : FieldPath) (info : FieldInfo) :
    (c.attend path info).Ensures I (· = [⟨path, some info⟩]) fun _ => True
  enclose (path : FieldPath) {x : Tour σ Unit} {P Q : List Stop → Prop} :
    x.Ensures I P (fun _ => True) → Q [] → (∀ l, P l → Q l) →
    (∀ l, P l → Q (l ++ [⟨path, none⟩])) → (c.enclose path x).Ensures I Q fun _ => True

section logs

variable {σ : Type} {I : σ → Prop} {config : Config} {c : Conduct (Tour σ)}
  {into : FieldPath → Tour σ Unit}

theorem Conduct.Logs.fields (logs : c.Logs I config)
    (tells : ∀ path, (into path).Ensures I (Told path) fun _ => True) (path : FieldPath)
    (index : Nat) {infos : List FieldInfo}
    (clean : ∀ info ∈ infos, info.exported → CleanSegment (Walk.segment config info))
    (nodup : ((infos.filter (·.exported)).map (Walk.segment config)).Nodup) :
    (c.fields into path index infos).Ensures I (ToldFields config path infos) fun _ => True := by
  induction infos generalizing index with
  | nil => exact Tour.ensures_pure (toldFields_nil _) trivial
  | cons info infos ih =>
    have among := fun other (mem : other ∈ infos) => clean other (List.mem_cons_of_mem _ mem)
    rw [Conduct.fields]
    split
    · next exported =>
      have others := nodup
      rw [List.filter_cons_of_pos exported, List.map_cons, List.nodup_cons] at others
      have rest := ih (index + 1) among others.2
      have first : ∀ {l l' : List Stop}, Told (path.pushField index (Walk.segment config info)) l →
          ToldFields config path infos l' → ToldFields config path (info :: infos)
            (⟨path.pushField index (Walk.segment config info), some info⟩ :: l ++ l') :=
        fun told told' => toldFields_cons clean nodup exported told told'
      refine logs.config.silent (toldFields_nil _) fun seen is => ?_
      rw [is]
      refine (logs.attend _ info).bind
        (Q := fun l => ∃ inside l', l = inside ++ l' ∧
          Told (path.pushField index (Walk.segment config info)) inside ∧
          ToldFields config path infos l') (fun verdict _ => ?_) ?_ ?_
      · split
        · refine (tells _).bind (fun _ _ => rest) ?_ ?_
          · exact fun l told => ⟨l, [], (List.append_nil l).symm, told, toldFields_nil _⟩
          · exact fun l l' told told' => ⟨l, l', rfl, told, told'⟩
        · exact rest.weaken fun l told => ⟨[], l, rfl, told_nil _, told⟩
      · rintro _ rfl
        have alone := first (told_nil _) (toldFields_nil infos)
        exact alone
      · rintro _ _ rfl ⟨inside, l', rfl, told, told'⟩
        have both := first told told'
        exact both
    · next hidden =>
      rw [List.filter_cons_of_neg hidden] at nodup
      exact (ih (index + 1) among nodup).weaken fun l told => toldFields_skip told

theorem Conduct.Logs.items (logs : c.Logs I config)
    (tells : ∀ path, (into path).Ensures I (Told path) fun _ => True) (path : FieldPath)
    {indices : List Nat} (nodup : indices.Nodup) :
    (c.items into path indices).Ensures I (ToldItems path indices) fun _ => True := by
  induction indices with
  | nil => exact Tour.ensures_pure ⟨List.forall_mem_nil _, .nil⟩ trivial
  | cons index indices ih =>
    rw [List.nodup_cons] at nodup
    have rest := ih nodup.2
    have nothing : ToldItems path indices [] := ⟨List.forall_mem_nil _, .nil⟩
    have alone : ToldItems path (index :: indices) [] := ⟨List.forall_mem_nil _, .nil⟩
    refine (logs.look _).silent alone fun value _ => ?_
    split
    · refine (tells _).bind (fun _ _ => rest) ?_ ?_
      · intro l told
        rw [← List.append_nil l]
        exact toldItems_cons nodup.1 told nothing
      · exact fun l l' told told' => toldItems_cons nodup.1 told told'
    · exact rest.weaken fun l told => toldItems_cons nodup.1 (told_nil _) told

/-- The log of a walk through what is at a path. -/
theorem Conduct.Logs.descend (logs : c.Logs I config) (levels : Nat) (path : FieldPath) :
    (c.descend levels path).Ensures I (Told path) fun _ => True := by
  induction levels generalizing path with
  | zero => exact Tour.ensures_pure (told_nil path) trivial
  | succ levels ih =>
    refine (logs.look path).silent (told_nil path) fun value distinguishes => ?_
    split
    · next type fields is =>
      have told := distinguishes type fields is
      refine logs.enclose path (logs.fields ih path 0 told.clean told.nodup) (told_nil path) ?_ ?_
      · exact fun l fields => told_of_fields told fields
      · exact fun l fields => told_of_structure told fields
    · exact (ih path.pushDeref).weaken fun l => told_deref
    · exact (logs.items ih path List.nodup_range).weaken fun l => told_of_items
    · exact Tour.ensures_pure (told_nil path) trivial

end logs

/-! ## What stays during a walk -/

/-- Walks that keep a property of the state if they go well. -/
def keeping (I : WalkState → Prop) : MonadRelation Walk Walk where
  Rel x _ := ∀ state, I state → ∀ a, (x.run.run state).1 = .ok a → I (x.run.run state).2
  pure _ _ invariant _ _ := invariant
  bind {α β x y f g} first second state invariant b result := by
    have kept := first state invariant
    rw [run_bind] at result ⊢
    generalize x.run.run state = after at kept result ⊢
    obtain ⟨outcome, after⟩ := after
    cases outcome with
    | error e => cases result
    | ok a => exact second a after (kept a rfl) b result

/-- The engine has a configuration, and all structure types in the value that is walked have a
property. -/
structure WalkState.Retains (config : Config) (p : RecordType → Prop) (state : WalkState) :
    Prop where
  config : state.work.engine.config = config
  types : state.root.EveryType p

section retained

variable {config : Config} {p : RecordType → Prop} {s : WalkSetting}

/-- A step that changes neither the configuration nor the value. -/
theorem keeping_quiet {α : Type} {x y : Walk α}
    (quiet : ∀ state, (x.run.run state).2.work.engine.config = state.work.engine.config ∧
      (x.run.run state).2.root = state.root) :
    (keeping (WalkState.Retains config p)).Rel x y := by
  intro state retains _ _
  obtain ⟨same, root⟩ := quiet state
  exact ⟨same.trans retains.config, root.symm ▸ retains.types⟩

/-- Validations of nested structures leave the configuration alone. -/
theorem paired_config_nested (config : Config) (levels : Nat) (root : Option Value) (v : Value) :
    (pairing (holding fun e => e.config = config)).Rel (validateNestedWithin levels root v)
      (validateNestedWithin levels root v) :=
  paired_nested (unjournaled_holding _)
    ((lasting_config config).dispatches (serves_runHandler _ .validation)) levels root v

/-- An assignment that succeeds brings no structure type in. -/
theorem keeping_assign (path : FieldPath) (l : Literal) :
    (keeping (WalkState.Retains config p)).Rel (Walk.assign s path l) (Walk.assign s path l) := by
  intro state retains a result
  have assigning := run_assigning s path l state
  generalize (Walk.assign s path l).run.run state = after at assigning result ⊢
  cases assigning with
  | unsettable _ | unresolved _ => cases result
  | @assigned outcome root changes =>
    cases outcome with
    | error e => cases result
    | ok _ =>
      have types := Value.everyType_update changes
        (fun u _ ok => Value.everyType_filled (Value.filled_set ok)) retains.types
      exact ⟨retains.config, types⟩

theorem respects_keeping {levels : Nat} (nested : s.nested = validateNestedWithin levels)
    (path : FieldPath) :
    Respects (keeping (WalkState.Retains config p)) (fun _ => True) s path where
  get each state := each state trivial state
  throw e := keeping_quiet fun _ => ⟨rfl, rfl⟩
  argumentOf h pair := keeping_quiet fun state => by
    obtain ⟨result, work, runs, argued⟩ := argumentOf_run s h pair state
    rw [runs]
    exact ⟨argued.config, rfl⟩
  validate validator value state _ := keeping_quiet fun state' => by
    have alike := paired_config_nested state'.work.engine.config levels
    rw [← nested] at alike
    have paired := paired_validator (unjournaled_holding _) alike validator
      (some (s.outer.getD state.root)) value
    exact ⟨(kept_of_holding paired rfl).2, rfl⟩
  note notes := keeping_quiet fun _ => ⟨rfl, rfl⟩
  record e := keeping_quiet fun _ => ⟨rfl, rfl⟩
  assign l := keeping_assign path l

/-- What a part of a walk keeps, it keeps in a tour. -/
theorem ensures_lift {α : Type} {I : WalkState → Prop} {x : Walk α} (keeps : (keeping I).Rel x x) :
    (Tour.lift x).Ensures I (· = []) fun _ => True :=
  fun state invariant => ⟨rfl, fun a result => ⟨keeps state invariant a result, trivial⟩⟩

theorem ensures_stop {α : Type} {I : WalkState → Prop} (path : FieldPath) (field : Option FieldInfo)
    {x : Walk α} (keeps : (keeping I).Rel x x) :
    (do .stop path field; .lift x : Tour WalkState α).Ensures I (· = [⟨path, field⟩])
      fun _ => True :=
  fun state invariant => ⟨rfl, fun a result => ⟨keeps state invariant a result, trivial⟩⟩

/-- A walk tells places apart if the structures in the value tell their fields apart. -/
theorem logs_tour {levels : Nat} (nested : s.nested = validateNestedWithin levels)
    (config : Config) :
    (Walk.tour s).Logs (WalkState.Retains config (RecordType.Distinguishes config)) config where
  look path state retains := by
    refine ⟨rfl, fun value result => ⟨?_, ?_⟩⟩
    · exact retains
    · cases result
      intro type fields looks
      obtain ⟨u, leads, view⟩ := Option.map_eq_some_iff.mp looks
      have every := Value.everyType_of_resolve leads retains.types
      rw [Value.eq_record_of_view view, Value.EveryType] at every
      exact every.1
  config state retains := by
    refine ⟨rfl, fun seen result => ?_⟩
    cases result
    exact ⟨retains, retains.config⟩
  attend path info := ensures_stop path (some info) ((respects_keeping nested path).dispatch info _)
  enclose path {x P Q} fields empty alone both := by
    let I := WalkState.Retains config (RecordType.Distinguishes config)
    have counts : (Tour.lift Walk.count).Ensures I (· = []) fun _ => True :=
      ensures_lift (keeping_quiet fun _ => ⟨rfl, rfl⟩)
    have own : ∀ before, (do .stop path none; .lift (Walk.selfValidate s path before) :
        Tour WalkState Unit).Ensures I (· = [⟨path, none⟩]) fun _ => True :=
      fun before => ensures_stop path none ((respects_keeping nested path).selfValidate before)
    refine counts.silent empty fun before _ => fields.bind (fun _ _ => own before) alone ?_
    rintro l _ told rfl
    exact both l told

end retained

/-! ## Names of stops -/

/-- For a value in whose structures the fields that are walked go by different names, not empty
and without dots and brackets, and whatever the handlers of an engine do: a walk is a tour that
writes its stops down;

* no two stops at fields have the same name;
* stops with the same name are at the same place;
* every failure that is recorded is recorded at a stop, under its name;
* and if it is a failure without fields, it leaves whatever is recorded under the name of a stop
  at any other place. -/
theorem display_paths_distinct (registry : RegistryName) (settable selfValidate : Bool)
    (outer : Option Value) (w : Workspace) (v : Value)
    (distinguishes : v.EveryType (RecordType.Distinguishes w.engine.config)) :
    let trip := Engine.tourWith registry settable selfValidate outer v w
    ((Engine.walkWith registry settable selfValidate outer v).run w).1 =
        ⟨trip.result, trip.state.root, trip.state.failures⟩ ∧
      (trip.stops.filter (·.field.isSome)).Pairwise (fun a b => a.path.name ≠ b.path.name) ∧
      (∀ a ∈ trip.stops, ∀ b ∈ trip.stops, a.path.name = b.path.name →
        a.path.place = b.path.place) ∧
      ∃ findings : List Finding,
        trip.state.recorded = findings.length ∧
        trip.state.failures = Failures.recordAll {} (Finding.entries findings) ∧
        (∀ finding ∈ findings, finding.1 ∈ trip.stops) ∧
        ∀ finding ∈ findings, finding.2.fields = none →
          ∀ stop ∈ trip.stops, stop.path.place ≠ finding.1.path.place → ∀ fs : Failures,
            (fs.record finding.1.path.name finding.2).get? stop.path.name =
              fs.get? stop.path.name := by
  intro trip
  let s : WalkSetting :=
    { registry, settable, selfValidate, outer, nested := validateNestedWithin v.depth }
  have logs : (Walk.tour s).Logs _ w.engine.config := logs_tour rfl w.engine.config
  have told : Told .root trip.stops :=
    (logs.descend v.depth .root { work := w, root := v } ⟨rfl, distinguishes⟩).1
  have places : ∀ a ∈ trip.stops, ∀ b ∈ trip.stops, a.path.name = b.path.name →
      a.path.place = b.path.place := by
    have apart : trip.stops.Pairwise fun a b => a.path.name = b.path.name →
        a.path.place = b.path.place := told.distinct.imp fun distinct same => (distinct same).1
    have flipped : trip.stops.Pairwise fun b a => a.path.name = b.path.name →
        a.path.place = b.path.place :=
      told.distinct.imp fun distinct same => (distinct same.symm).1.symm
    exact fun a mem b mem' =>
      apart.forall_of_forall_of_flip (fun _ _ _ => rfl) flipped mem mem'
  refine ⟨?_, ?_, places, ?_⟩
  · rw [run_walkWith]
  · rw [List.pairwise_filter]
    refine told.distinct.imp fun {a b} distinct field field' same => ?_
    rcases (distinct same).2 with none | none
    · rw [none] at field
      cases field
    · rw [none] at field'
      cases field'
  · obtain ⟨findings, ⟨failures, recorded⟩, among⟩ :=
      chronicling_descend s v.depth .root { work := w, root := v }
    have count : trip.state.recorded = findings.length := by
      rw [Finding.entries, List.length_map, Nat.zero_add] at recorded
      exact recorded
    refine ⟨findings, count, failures, among, fun finding mem plain stop stops apart fs => ?_⟩
    have ne : finding.1.path.name ≠ stop.path.name := fun same =>
      apart (places _ (among finding mem) stop stops same).symm
    rw [Failures.record, plain]
    dsimp only
    rw [Table.get?_insert, if_neg ne]

/-- A structure behind a pointer and two in a list, one of which has a failure. -/
theorem display_paths_distinct_of_tree :
    let leaf : RecordType :=
      { name := "Leaf", fields := [{ name := "size", tag := "validate:\"zero\"" }] }
    let tree : RecordType :=
      { name := "Tree"
        fields := [{ name := "first" }, { name := "rest", tag := "json:\"items\"" }] }
    let v : Value := .record tree [.boxed (.record leaf [.text ""]),
      .seq [.record leaf [.text ""], .record leaf [.text "long"]]]
    let w : Workspace := { engine := .new {} }
    let trip := Engine.tourWith .full true true none v w
    v.EveryType (RecordType.Distinguishes w.engine.config) ∧
      trip.stops.map (fun stop => (stop.path.name, stop.field.isSome)) =
        [("first", true), ("first.size", true), ("first", false), ("items", true),
          ("items[0].size", true), ("items[0]", false), ("items[1].size", true),
          ("items[1]", false), ("", false)] ∧
      trip.state.failures.keys = ["items[1].size"] ∧
      (trip.stops.filter (·.field.isSome)).Pairwise fun a b => a.path.name ≠ b.path.name := by
  intro leaf tree v w trip
  have leaves : leaf.Distinguishes w.engine.config := by decide +kernel
  have fields : tree.Distinguishes w.engine.config := by decide +kernel
  have distinguishes : v.EveryType (RecordType.Distinguishes w.engine.config) := by
    simp only [v, Value.EveryType, Value.EveryTypeIn, leaves, fields, and_self]
  obtain ⟨-, distinct, -⟩ := display_paths_distinct .full true true none w v distinguishes
  exact ⟨distinguishes, by decide +kernel, by decide +kernel, distinct⟩

end RecordRules

import RecordRules.Proofs.Engine.Following
import RecordRules.Proofs.Value.Locating

/-!
# Walks through structures

A walk looks every field up from the root, by a path that grows on the way down.  The
value that it finds is the one that an inspection has in hand, and what it counts tells
whether the inspection has something to report.
-/

namespace RecordRules

/-! ## Paths -/

theorem resolve_push (v : Value) (path : FieldPath) (step : Step) (addition : String) :
    v.resolve (path.push step addition).steps =
      (v.resolve path.steps).bind fun u => u.follow step := by
  rw [steps_push, Value.resolve_append]
  exact congrArg _ (funext fun u => u.resolve_one step)

theorem pushField_name (path : FieldPath) (index : Nat) (segment : String) :
    (path.pushField index segment).name = below path.name segment := by
  rw [FieldPath.pushField, FieldPath.push, below]
  by_cases empty : path.name.isEmpty
  · rw [if_pos empty, if_pos empty, String.isEmpty_iff.mp empty, String.empty_append]
  · rw [if_neg empty, if_neg empty, String.append_assoc]

theorem pushIndex_name (path : FieldPath) (index : Nat) :
    (path.pushIndex index).name = path.name ++ "[" ++ toString index ++ "]" := by
  rw [FieldPath.pushIndex, FieldPath.push, String.append_assoc, String.append_assoc,
    String.append_assoc]

theorem pushDeref_name (path : FieldPath) : path.pushDeref.name = path.name :=
  String.append_empty

theorem resolve_pushDeref {root : Value} {path : FieldPath} {v target : Value}
    (leads : root.resolve path.steps = some v) (points : v.follow .deref = some target) :
    root.resolve path.pushDeref.steps = some target := by
  rw [FieldPath.pushDeref, resolve_push, leads, Option.bind_some]
  exact points

theorem below_ne_empty (path : String) {segment : String} (ne : segment ≠ "") :
    below path segment ≠ "" := by
  rw [below]
  split
  · exact ne
  · intro empty
    have length := congrArg String.length empty
    simp [String.length_append] at length

theorem resolve_field {root : Value} {path : FieldPath} {type : RecordType} {values : List Value}
    (leads : root.resolve path.steps = some (.record type values)) {index : Nat} {info : FieldInfo}
    (is : type.fields[index]? = some info) (segment : String) :
    root.resolve (path.pushField index segment).steps = values[index]?.bind info.shown := by
  rw [FieldPath.pushField, resolve_push, leads, Option.bind_some]
  change Value.fieldAt type values index = _
  rw [Value.fieldAt, is]
  unfold FieldInfo.shown
  dsimp only
  split
  · cases values[index]? <;> rfl
  · cases values[index]? <;> rfl

/-! ## Structures -/

section structures

variable {s : Setup} {root : Value} {bound : Nat} {setting : WalkSetting}
  {r : Validator.Runner Journal}

theorem walking_report (path : String) (outcome : Outcome) :
    (walking s root).Rel (match outcome with | .ok () => pure () | .error e => Walk.record path e)
      (Inspect.report path outcome) := by
  cases outcome with
  | ok _ => exact (walking s root).pure ()
  | error e => exact walking_record path e

/-- What is left of the own check of a structure when nothing is counted. -/
def ownCheck (s : Setup) (path : FieldPath) (clean : Bool) (v : Value) : Walk Unit :=
  if s.config.selfValidate && !path.name.isEmpty && clean then
    match v.selfCheck with
    | .ok () => pure ()
    | .error e => Walk.record path.name e
  else pure ()

theorem run_selfValidate (same : setting.selfValidate = s.config.selfValidate) {path : FieldPath}
    {v : Value} (leads : root.resolve path.steps = some v) {state : WalkState}
    (is : state.root = root) (work : Workspace) (recorded : List (String × Failure)) :
    (Walk.selfValidate setting path state.recorded).run.run (state.after work recorded) =
      (ownCheck s path recorded.isEmpty v).run.run (state.after work recorded) := by
  have counted : decide ((state.after work recorded).recorded = state.recorded) =
      recorded.isEmpty := by
    cases recorded with
    | nil => simp [WalkState.after]
    | cons entry recorded => simp [WalkState.after]
  have found : (Walk.resolve path).run.run (state.after work recorded) =
      (.ok (some v), state.after work recorded) := by
    rw [← leads, ← is]
    rfl
  rw [Walk.selfValidate, run_get, same, counted, ownCheck]
  split
  · rewrite [run_bind, found]
    rfl
  · rfl

/-- A structure whose fields are walked as they are inspected makes its own check as in the
inspection: the count is the same as before if nothing was reported. -/
theorem walking_structure (same : setting.selfValidate = s.config.selfValidate) {path : FieldPath}
    {v : Value} (leads : root.resolve path.steps = some v) {x : Walk Unit}
    {y : Inspect Journal Unit}
    (fields : (walking s root).Rel x y) :
    (walking s root).Rel
      (do
        let before := (← get).recorded
        x
        Walk.selfValidate setting path before)
      (do
        let clean ← y.clean
        Inspect.when (!path.name.isEmpty && s.config.selfValidate && clean) <|
          Inspect.report path.name v.selfCheck) := by
  intro state is faithful
  obtain ⟨⟨recorded, result⟩, work, journals, runs, kept⟩ := fields state is faithful
  have cleaned : y.clean.run.run state.work.visits =
      (⟨recorded, result.map fun _ => recorded.isEmpty⟩, work.visits) := by
    change (y.run >>= _ : Journal _).run state.work.visits = _
    rw [StateT.run_bind, journals]
    rfl
  rw [run_get, run_bind, runs, Inspect.run_bind, StateT.run_bind, cleaned]
  cases result with
  | error e => exact ⟨⟨recorded, .error e⟩, work, rfl, rfl, kept⟩
  | ok _ =>
    have own : (walking s root).Rel (ownCheck s path recorded.isEmpty v)
        (Inspect.when (!path.name.isEmpty && s.config.selfValidate && recorded.isEmpty) <|
          Inspect.report path.name v.selfCheck) := by
      rw [ownCheck, Inspect.when, Bool.and_comm s.config.selfValidate]
      split
      · exact walking_report path.name v.selfCheck
      · exact (walking s root).pure ()
    obtain ⟨report, work', journals', runs', kept'⟩ := own (state.after work recorded) is kept
    have checked := run_selfValidate same leads is work recorded
    refine ⟨⟨recorded ++ report.recorded, report.result⟩, work', ?_, ?_, kept'⟩
    · exact journal_append recorded journals'
    · rw [after_append, ← checked] at runs'
      exact runs'

/-- How a walk goes on into values that the simulation extends to. -/
structure Enters (s : Setup) (root : Value) (bound : Nat) (seen : Value)
    (r : Validator.Runner Journal) (descend : FieldPath → Walk Unit) : Prop where
  absent : ∀ path, root.resolve path.steps = none → (walking s root).Rel (descend path) (pure ())
  value : ∀ path v, root.resolve path.steps = some v → v.Named s.config → v.depth ≤ bound →
    path.name ≠ "" → (walking s root).Rel (descend path) (s.reading.content r seen true path.name v)

/-- One field of a structure. -/
theorem walking_field (simulates : Simulates s bound setting r) {path : FieldPath} {index : Nat}
    {info : FieldInfo} {value : Option Value}
    (leads : root.resolve (path.pushField index (Walk.segment s.config info)).steps = value)
    (fits : Fits s.config bound value) {descend : FieldPath → Walk Unit}
    {enter : Inspect Journal Unit}
    (into : (walking s root).Rel (descend (path.pushField index (Walk.segment s.config info)))
      (Inspect.when value.isSome enter))
    {rest : Walk Unit} {rest' : Inspect Journal Unit} (others : (walking s root).Rel rest rest') :
    (walking s root).Rel
      (do
        if info.exported then
          let field := path.pushField index (Walk.segment (← Walk.config) info)
          if (← Walk.dispatch setting field info (annotationPairs info.tag)) = .descend then
            descend field
        rest)
      (do
        s.reading.field r (setting.outer.getD root) (below path.name (Walk.segment s.config info))
          info value enter
        rest') := by
  unfold Reading.field
  cases info.exported with
  | false => exact (walking s root).bind ((walking s root).pure _) fun _ => others
  | true =>
    apply walking_then walking_config
    have unquoted : ∀ pair ∈ annotationPairs info.tag, unquote pair.quoted = .ok pair.value := by
      intro pair mem
      exact unquote_of_mem_annotationPairs mem
    have dispatches := walking_dispatch simulates
      (path.pushField index (Walk.segment s.config info)) info (leads ▸ fits) unquoted
    rw [leads, pushField_name] at dispatches
    rw [if_pos rfl]
    generalize path.pushField index (Walk.segment s.config info) = place at *
    have enters : ∀ verdict : Verdict, (walking s root).Rel
        (if verdict = .descend then descend place else pure ())
        (Inspect.when (verdict = .descend ∧ value.isSome) enter) := by
      intro verdict
      cases verdict with
      | descend =>
        rw [if_pos rfl]
        simpa only [true_and] using into
      | skip => exact (walking s root).pure ()
    have both := (walking s root).bind ((walking s root).bind dispatches enters) fun _ => others
    have branches : ∀ verdict : Verdict,
        ((if verdict = .descend then descend place else pure ()) >>= fun _ => rest) =
          if verdict = .descend then descend place >>= fun _ => rest else rest := by
      intro verdict
      cases verdict with
      | descend => rw [if_pos rfl, if_pos rfl]
      | skip => exact pure_bind () _
    simp only [bind_assoc, branches] at both
    exact both

/-- The fields of a structure from an index on. -/
theorem walking_fields (simulates : Simulates s bound setting r) {path : FieldPath}
    {type : RecordType} {values : List Value}
    (leads : root.resolve path.steps = some (.record type values))
    (named : ∀ info ∈ type.fields, Walk.segment s.config info ≠ "")
    (fits : ∀ v ∈ values, v.Named s.config ∧ v.depth ≤ bound)
    {descend : FieldPath → Walk Unit}
    (enters : Enters s root bound (setting.outer.getD root) r descend) (infos : List FieldInfo)
    (index : Nat) (are : type.fields.drop index = infos) :
    (walking s root).Rel (Walk.walkFields setting descend path index infos)
      (s.reading.fields r (setting.outer.getD root) path.name infos (values.drop index)) := by
  induction infos generalizing index with
  | nil =>
    rw [Reading.fields]
    exact (walking s root).pure ()
  | cons info infos ih =>
    have is : type.fields[index]? = some info := by
      rw [← List.head?_drop, are]
      rfl
    have rest := ih (index + 1) (by rw [← List.tail_drop, are]; rfl)
    have place := resolve_field leads is (Walk.segment s.config info)
    have nonempty : below path.name (Walk.segment s.config info) ≠ "" :=
      below_ne_empty _ (named info (List.mem_of_getElem? is))
    rw [Walk.walkFields]
    cases value : values[index]? with
    | none =>
      have none : values.drop index = [] :=
        List.drop_eq_nil_iff.mpr (List.getElem?_eq_none_iff.mp value)
      have none' : values.drop (index + 1) = [] := by
        rw [← List.tail_drop, none]
        rfl
      rw [value, Option.bind_none] at place
      rw [none', Reading.fields_nil] at rest
      rw [none, Reading.fields_nil, Reading.absentFields]
      have fitting : Fits s.config bound .none := by
        intro v is
        cases is
      have into := enters.absent _ place
      exact walking_field simulates place fitting into rest
    | some v =>
      obtain ⟨within, rfl⟩ := List.getElem?_eq_some_iff.mp value
      rw [value, Option.bind_some] at place
      rw [List.drop_eq_getElem_cons within, Reading.fields]
      have holds := fits values[index] (List.getElem_mem within)
      have fitting : Fits s.config bound (info.shown values[index]) := by
        intro u is
        rw [← Reading.shown_eq_some is]
        exact holds
      refine walking_field simulates place fitting ?_ rest
      cases shown : info.shown values[index] with
      | none => exact enters.absent _ (place.trans shown)
      | some u =>
        cases Reading.shown_eq_some shown
        rw [← pushField_name path index] at nonempty ⊢
        exact enters.value _ _ (place.trans shown) holds.1 holds.2 nonempty

/-- The elements of a sequence from an index on. -/
theorem walking_items {path : FieldPath} {items : List Value}
    (leads : root.resolve path.steps = some (.seq items))
    (fits : ∀ v ∈ items, v.Named s.config ∧ v.depth ≤ bound)
    {descend : FieldPath → Walk Unit} {seen : Value}
    (enters : Enters s root bound seen r descend) (rest : List Value) (index : Nat)
    (are : items.drop index = rest) :
    (walking s root).Rel (Walk.walkItems descend path (List.range' index rest.length))
      (s.reading.elements r seen path.name index rest) := by
  induction rest generalizing index with
  | nil =>
    rw [Reading.elements]
    exact (walking s root).pure ()
  | cons item rest ih =>
    have is : items[index]? = some item := by
      rw [← List.head?_drop, are]
      rfl
    have others := ih (index + 1) (by rw [← List.tail_drop, are]; rfl)
    have place : root.resolve (path.pushIndex index).steps = some item := by
      rw [FieldPath.pushIndex, resolve_push, leads]
      exact is
    have holds := fits item (List.mem_of_getElem? is)
    rw [List.length_cons, List.range'_succ, Walk.walkItems, Reading.elements, ← pushIndex_name]
    apply walking_then (walking_resolve _)
    rw [place]
    have nonempty : (path.pushIndex index).name ≠ "" := by
      rw [pushIndex_name]
      intro empty
      have length := congrArg String.length empty
      simp [String.length_append] at length
    cases structure' : item.indirect with
    | record type fields =>
      dsimp only [Option.map_some]
      rw [structure']
      have into := enters.value _ item place holds.1 holds.2 nonempty
      exact (walking s root).bind into fun _ => others
    | bool _ | integer _ _ | single _ | double _ | text _ | fixedText _ | json _ | absent _
    | present _ _ | boxed _ | seq _ | map _ | entry _ _ =>
      dsimp only [Option.map_some]
      rw [structure']
      exact (walking s root).bind ((walking s root).pure ()) fun _ => others

/-- Elements of documents are no structures. -/
theorem walking_documents {path : FieldPath} {items : List Json}
    (leads : root.resolve path.steps = some (.json (.array items)))
    (descend : FieldPath → Walk Unit) (indices : List Nat) :
    (walking s root).Rel (Walk.walkItems descend path indices) (pure ()) := by
  induction indices with
  | nil => exact (walking s root).pure ()
  | cons index indices ih =>
    have place : root.resolve (path.pushIndex index).steps = (items.map Value.json)[index]? := by
      rw [FieldPath.pushIndex, resolve_push, leads]
      rfl
    apply walking_then (walking_resolve _)
    rw [place, List.getElem?_map]
    cases items[index]? with
    | none => exact ih
    | some item => exact ih

theorem Simulates.mono {bound' : Nat} (simulates : Simulates s bound setting r)
    (le : bound' ≤ bound) : Simulates s bound' setting r where
  registry := simulates.registry
  selfValidate := simulates.selfValidate
  check := simulates.check
  nested outer v named within := simulates.nested outer v named (Nat.le_trans within le)

theorem walking_descend_absent (levels : Nat) {path : FieldPath}
    (absent : root.resolve path.steps = none) :
    (walking s root).Rel (Walk.descend setting levels path) (pure ()) := by
  cases levels with
  | zero => exact (walking s root).pure ()
  | succ levels =>
    apply walking_then (walking_resolve path)
    rw [absent]
    exact (walking s root).pure ()

/-- A walk goes through what a value holds as an inspection does. -/
theorem walking_descend (simulates : Simulates s bound setting r) (levels : Nat) {path : FieldPath}
    {v : Value} (leads : root.resolve path.steps = some v) (named : v.Named s.config)
    (enough : v.depth ≤ levels) (within : v.depth ≤ bound + 1) :
    (walking s root).Rel (Walk.descend setting levels path)
      (s.reading.content r (setting.outer.getD root) (!path.name.isEmpty) path.name v) := by
  induction levels generalizing path v with
  | zero =>
    cases v with
    | present _ _ | boxed _ | seq _ | map _ | record _ _ | entry _ _ =>
      rw [Value.depth] at enough
      omega
    | bool _ | integer _ _ | single _ | double _ | text _ | fixedText _ | json _ | absent _ =>
      simp only [Reading.content]
      exact (walking s root).pure ()
  | succ levels ih =>
    have simulates' := simulates.mono (Nat.min_le_left bound levels)
    have enters : Enters s root (min bound levels) (setting.outer.getD root) r
        (Walk.descend setting levels) := by
      refine ⟨fun path absent => walking_descend_absent levels absent, ?_⟩
      intro path v leads named within nonempty
      have inner : (!path.name.isEmpty) = true := by simpa using nonempty
      rw [← inner]
      exact ih leads named (by omega) (by omega)
    apply walking_then (walking_resolve path)
    rw [leads]
    cases v with
    | present content target =>
      have deref : root.resolve path.pushDeref.steps = some target := resolve_pushDeref leads rfl
      rw [Value.depth] at enough within
      rw [Value.Named, Value.EveryType] at named
      rw [Reading.content, ← pushDeref_name path]
      exact ih deref named (by omega) (by omega)
    | boxed target =>
      have deref : root.resolve path.pushDeref.steps = some target := resolve_pushDeref leads rfl
      rw [Value.depth] at enough within
      rw [Value.Named, Value.EveryType] at named
      rw [Reading.content, ← pushDeref_name path]
      exact ih deref named (by omega) (by omega)
    | seq items =>
      rw [Value.depth] at enough within
      rw [Value.Named, Value.EveryType, Value.everyTypeIn_iff] at named
      have fits : ∀ v ∈ items, v.Named s.config ∧ v.depth ≤ min bound levels := by
        intro v mem
        have depth := Value.depth_le_greatestDepth mem
        exact ⟨named v mem, by omega⟩
      have walks := walking_items leads fits enters items 0 rfl
      rw [← List.range_eq_range'] at walks
      rw [Reading.content]
      exact walks
    | record type values =>
      rw [Value.depth] at enough within
      rw [Value.Named, Value.EveryType, Value.everyTypeIn_iff] at named
      have fits : ∀ v ∈ values, v.Named s.config ∧ v.depth ≤ min bound levels := by
        intro v mem
        have depth := Value.depth_le_greatestDepth mem
        exact ⟨named.2 v mem, by omega⟩
      have fields := walking_fields simulates' leads named.1 fits enters type.fields 0 rfl
      rw [Reading.content]
      exact walking_structure simulates.selfValidate leads fields
    | json j =>
      simp only [Reading.content]
      cases j with
      | array items => exact walking_documents leads _ _
      | integer n =>
        rw [Option.map_some, Value.view, View.ofJson]
        by_cases holds : IntType.int64.Holds n.val
        · rw [if_pos holds]
          exact (walking s root).pure ()
        · rw [if_neg holds]
          exact (walking s root).pure ()
      | null | bool _ | float _ | string _ | object _ => exact (walking s root).pure ()
    | integer type n =>
      simp only [Reading.content]
      rw [Option.map_some, Value.view, View.ofInteger]
      by_cases signed : type.signed
      · rw [if_pos signed]
        exact (walking s root).pure ()
      · rw [if_neg signed]
        exact (walking s root).pure ()
    | bool _ | single _ | double _ | text _ | fixedText _ | absent _ | map _ | entry _ _ =>
      simp only [Reading.content]
      exact (walking s root).pure ()

/-- A walk over a value leaves the value alone and ends with what an inspection reports. -/
theorem run_walkValue (simulates : Simulates s bound setting r) {v : Value}
    (named : v.Named s.config) (within : v.depth ≤ bound + 1) {w : Workspace}
    (faithful : s.Faithful w.engine) :
    ∃ report w', (s.reading.content r (setting.outer.getD v) false "" v).run.run w.visits =
        (report, w'.visits) ∧
      (walkValue setting v).run w = (⟨report.result, v, Failures.collect report.recorded⟩, w') ∧
      s.Faithful w'.engine := by
  have leads : v.resolve FieldPath.root.steps = some v := rfl
  obtain ⟨report, w', journals, runs, kept⟩ :=
    walking_descend simulates v.depth leads named (Nat.le_refl _) within { work := w, root := v }
      rfl faithful
  have walks : (walkValue setting v).run w =
      let after := (Walk.descend setting v.depth .root).run.run { work := w, root := v }
      (⟨after.1, after.2.root, after.2.failures⟩, after.2.work) := rfl
  refine ⟨report, w', journals, ?_, kept⟩
  rw [walks, runs]
  rfl

end structures

end RecordRules

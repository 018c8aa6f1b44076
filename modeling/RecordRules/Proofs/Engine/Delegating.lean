import RecordRules.Proofs.Engine.Strict
import RecordRules.Proofs.Rulebook.Tame
import RecordRules.Proofs.Value.Delegation

/-!
# Delegated fields

A structure in a field is validated by the walk through the fields around it, or, if the
field is delegated, by a validator that starts a walk of its own.  The first records what
it finds at the place of the field, the second hands over one failure that carries all
others; the first runs the structure's own check if nothing has been recorded since, the
second if its own walk has recorded nothing.  Both come to the same.

Inspections of a value and of one that delegates some of its fields are compared at places
`joinPath path place` and `place`.  At a delegated field the validator starts anew, so that
everything up to the field becomes part of the path.
-/

namespace RecordRules

open Failures

/-! ## Places -/

theorem below_eq_joinPath (path : String) {segment : String} (named : segment ≠ "")
    (noIndex : segment.toList.head? ≠ some '[') : below path segment = joinPath path segment := by
  have nonempty : ¬ segment.isEmpty := fun is => named (String.isEmpty_iff.mp is)
  rw [below, joinPath, if_neg nonempty, if_neg noIndex]

theorem below_joinPath (path place : String) {segment : String} (named : segment ≠ "")
    (noIndex : segment.toList.head? ≠ some '[') :
    below (joinPath path place) segment = joinPath path (below place segment) := by
  rw [below_eq_joinPath _ named noIndex, below_eq_joinPath _ named noIndex, joinPath_assoc]

theorem index_eq_joinPath (path : String) (index : Nat) :
    path ++ "[" ++ toString index ++ "]" = joinPath path ("[" ++ toString index ++ "]") := by
  have bracket : "[" ≠ "" := by decide
  by_cases path_ne : path = ""
  · rw [path_ne, joinPath_empty_left, String.empty_append]
  · rw [String.append_assoc, String.append_assoc, String.append_assoc,
      joinPath_of_ne path_ne (append_ne_empty bracket _), separator_append bracket,
      show separator "[" = "" from rfl, String.empty_append]

theorem index_joinPath (path place : String) (index : Nat) :
    joinPath path place ++ "[" ++ toString index ++ "]" =
      joinPath path (place ++ "[" ++ toString index ++ "]") := by
  rw [index_eq_joinPath, index_eq_joinPath, joinPath_assoc]

/-! ## Readings -/

/-- Annotations are read as with the default configuration: the rule `structure` is the validation
of a nested structure, and no rule makes checks that look at annotations. -/
structure Reading.Standard (reading : Reading) : Prop where
  config : reading.config = {}
  nested : reading.meaning "structure" = .ok .nested
  tame : ∀ rule w, reading.meaning rule = .ok w → w.Tame

/-! ## Validators -/

section validators

variable {reading : Reading} {bound : Nat} {root root' : Value}

/-- Nested structures are validated alike up to a depth, whatever is delegated in them. -/
def NestedAgree (reading : Reading) (bound : Nat) : Prop :=
  ∀ root root' v v' : Value, root.Delegates root' → v.Delegates v' →
    v.EveryType RecordType.Regular → v.weight ≤ bound →
    agreeing.Rel (reading.nested strict (some root) v) (reading.nested strict (some root') v')

theorem plain_selfCheck {type : RecordType} (regular : type.Regular) (values : List Value) :
    Check.Plain (Value.record type values).selfCheck := by
  intro e fails
  rw [Value.selfCheck] at fails
  cases own : type.selfCheck with
  | none =>
    rw [own] at fails
    cases fails
  | some check =>
    rw [own] at fails
    exact regular.plain check _ e own fails

theorem selfCheck_eq_of_delegates {v v' : Value} (delegates : v.Delegates v') :
    v.selfCheck = v'.selfCheck := by
  rw [← Value.selfCheck_bare v, Value.bare_eq_of_delegates delegates, Value.selfCheck_bare]

theorem plain_noStructure (v : Value) : Check.Plain v.noStructure := by
  rw [Value.noStructure]
  split
  · exact Check.plain_ok
  · exact Check.plain_error rfl

/-- Validating a structure gives failures of the structure itself or of some of its fields. -/
theorem solidly_nested {outer : Option Value} {v : Value}
    (regular : v.EveryType RecordType.Regular) :
    Validator.Solidly (reading.nested strict outer v) := by
  rcases v.record_or_other with ⟨type, values, leads⟩ | other
  · have types := Value.everyType_indirect v regular
    rw [leads, Value.EveryType] at types
    rw [Reading.nested_record reading strict leads, Reading.alone]
    intro outcome is
    obtain ⟨⟨recorded, result⟩, -, is⟩ := bind_eq_ok_iff.mp is
    cases result with
    | error e => cases is
    | ok _ =>
      dsimp only at is
      split at is
      · cases is
        exact solidOutcome_of_plain (plain_selfCheck types.1 values)
      · next some =>
        cases is
        exact solidOutcome_error (solid_nested some)
  · rw [Reading.nested_other reading strict other]
    exact Validator.solidly_ok (solidOutcome_of_plain (plain_noStructure _))

theorem agreeing_run (agree : NestedAgree reading bound) (roots : root.Delegates root')
    {w : Validator} (tame : w.Tame) {v v' : Value} (delegates : v.Delegates v')
    (regular : v.EveryType RecordType.Regular) (within : v.weight ≤ bound) :
    agreeing.Rel (w.run (reading.runner strict) (some root) v)
      (w.run (reading.runner strict) (some root') v') := by
  have closed : ∀ v : Value, v.EveryType RecordType.Regular ∧ v.weight ≤ bound →
      ∀ u ∈ v.parts, u.EveryType RecordType.Regular ∧ u.weight ≤ bound := by
    rintro v ⟨regular, within⟩ u mem
    have types := Value.everyType_parts regular u mem
    have light := Value.weight_parts u mem
    exact ⟨types, by omega⟩
  have parts := Value.partsRelated_delegates closed
  refine Validator.run_related agreeing parts ?_ w ?_ ⟨delegates, regular, within⟩
  · rintro u u' ⟨delegates, regular, within⟩
    exact agree root root' u u' roots delegates regular within
  · rintro c mem u u' ⟨delegates, -⟩ outcome is
    have blind := (tame c mem).blind (some root) u
    rw [Option.map_some, Value.bare_eq_of_delegates roots,
      Value.bare_eq_of_delegates delegates] at blind
    have blind' := (tame c mem).blind (some root') u'
    rw [← is]
    exact congrArg Except.ok (blind'.symm.trans blind)

theorem solidly_validator {w : Validator} (tame : w.Tame) {outer : Option Value}
    {v : Value} (regular : v.EveryType RecordType.Regular) :
    Validator.Solidly (w.run (reading.runner strict) outer v) := by
  have nested : ∀ u : Value, u.EveryType RecordType.Regular →
      Validator.Solidly ((reading.runner strict).nested outer u) := by
    intro u regular
    exact solidly_nested regular
  have checks : ∀ c ∈ w.checks, ∀ u,
      Validator.Solidly ((reading.runner strict).check c outer u) := by
    intro c mem u outcome is
    cases is
    exact solidOutcome_of_plain ((tame c mem).plain _ _)
  exact Validator.solidly_run (fun v holds => Value.everyType_parts holds) nested w checks regular

end validators

/-! ## Kept fields -/

section kept

variable {reading : Reading} {bound : Nat} {root root' : Value} {path : String}

/-- Values of a field, or none on both sides. -/
inductive FieldValues (bound : Nat) : Option Value → Option Value → Prop
  | none : FieldValues bound .none .none
  | some {v v' : Value} : v.Delegates v' → v.EveryType RecordType.Regular → v.depth ≤ bound →
    FieldValues bound (.some v) (.some v')

theorem fieldValues_shown (info : FieldInfo) {v v' : Value} (delegates : v.Delegates v')
    (regular : v.EveryType RecordType.Regular) (within : v.depth ≤ bound) :
    FieldValues bound (info.shown v) (info.shown v') := by
  unfold FieldInfo.shown
  split
  · exact .none
  · exact .some delegates regular within

theorem isSome_eq_of_fieldValues {value value' : Option Value}
    (values : FieldValues bound value value') : value.isSome = value'.isSome := by
  cases values <;> rfl

theorem tracking_verify (agree : NestedAgree reading bound) (roots : root.Delegates root')
    (place : String) {w : Validator} (tame : w.Tame) {value value' : Option Value}
    (values : FieldValues bound value value') :
    (tracking path).Rel (Reading.verify (reading.runner strict) root (joinPath path place) w value)
      (Reading.verify (reading.runner strict) root' place w value') := by
  cases values with
  | none => exact tracking_fail _ _
  | @some v _ delegates regular within =>
    have light : v.weight ≤ bound := by
      have weight := Value.weight_le_depth v
      omega
    have agrees := agreeing_run agree roots tame delegates regular light
    refine tracking_perform agrees fun outcome is => ?_
    have solid := solidly_validator tame regular outcome is
    exact (tracking path).bind (tracking_report place solid) fun _ => (tracking path).pure _

theorem tracking_followPair (standard : reading.Standard) (agree : NestedAgree reading bound)
    (roots : root.Delegates root') (place : String) (pair : Pair) {value value' : Option Value}
    (values : FieldValues bound value value') :
    (tracking path).Rel
      (reading.followPair (reading.runner strict) root (joinPath path place) value pair)
      (reading.followPair (reading.runner strict) root' place value' pair) := by
  unfold Reading.followPair
  split
  · cases PlainHandler.parseVerdict pair.value with
    | ok verdict => exact (tracking path).pure _
    | error e => exact tracking_fail _ _
  · split
    · cases means : reading.meaning pair.value with
      | ok w => exact tracking_verify agree roots place (standard.tame _ w means) values
      | error e => exact tracking_fail _ _
    · exact (tracking path).pure _

theorem tracking_follow (standard : reading.Standard) (agree : NestedAgree reading bound)
    (roots : root.Delegates root') (place : String) (pairs : List Pair)
    {value value' : Option Value} (values : FieldValues bound value value') :
    (tracking path).Rel
      (reading.follow (reading.runner strict) root (joinPath path place) value pairs)
      (reading.follow (reading.runner strict) root' place value' pairs) := by
  induction pairs with
  | nil => exact (tracking path).pure _
  | cons pair pairs ih =>
    have first : (tracking path).Rel _ _ :=
      tracking_followPair standard agree roots place pair values
    refine (tracking path).bind first fun _ => ?_
    exact (tracking path).bind ih fun _ => (tracking path).pure _

/-- A field that keeps its annotation. -/
theorem tracking_field (standard : reading.Standard) (agree : NestedAgree reading bound)
    (roots : root.Delegates root') (place : String) (info : FieldInfo)
    {value value' : Option Value} (values : FieldValues bound value value')
    {enter enter' : Inspect (Except Fatal) Unit} (enters : (tracking path).Rel enter enter') :
    (tracking path).Rel
      (reading.field (reading.runner strict) root (joinPath path place) info value enter)
      (reading.field (reading.runner strict) root' place info value' enter') := by
  unfold Reading.field
  split
  · have follows : (tracking path).Rel _ _ :=
      tracking_follow standard agree roots place (annotationPairs info.tag) values
    rw [← isSome_eq_of_fieldValues values]
    refine (tracking path).bind follows fun _ => ?_
    exact tracking_when enters
  · exact (tracking path).pure _

theorem tracking_absentFields (standard : reading.Standard) (agree : NestedAgree reading bound)
    (roots : root.Delegates root') (place : String) {infos : List FieldInfo}
    (named : ∀ info ∈ infos, Walk.segment {} info ≠ "")
    (noIndex : ∀ info ∈ infos, (Walk.segment {} info).toList.head? ≠ some '[') :
    (tracking path).Rel
      (reading.absentFields (reading.runner strict) root (joinPath path place) infos)
      (reading.absentFields (reading.runner strict) root' place infos) := by
  induction infos with
  | nil => exact (tracking path).pure _
  | cons info infos ih =>
    rw [List.forall_mem_cons] at named noIndex
    have first : (tracking path).Rel _ _ :=
      tracking_field standard agree roots (below place (Walk.segment {} info)) info .none
        ((tracking path).pure ())
    have others := ih named.2 noIndex.2
    rw [Reading.absentFields, Reading.absentFields, standard.config,
      below_joinPath path place named.1 noIndex.1]
    exact (tracking path).bind first fun _ => others

end kept

/-! ## Delegated fields -/

section delegated

variable {reading : Reading} {r : Validator.Runner (Except Fatal)} {root : Value}

/-- Entries that are there neither for validation nor for the walk do not count. -/
theorem follow_free (config : reading.config = {}) (path : String) (value : Option Value)
    {pairs : List Pair} (free : ∀ pair ∈ pairs, pair.name ≠ "validate" ∧ pair.name ≠ "walk") :
    reading.follow r root path value pairs = pure .descend := by
  induction pairs with
  | nil => rfl
  | cons pair pairs ih =>
    obtain ⟨⟨noRule, noControl⟩, others⟩ := List.forall_mem_cons.mp free
    have ignored : reading.followPair r root path value pair = pure .descend := by
      rw [Reading.followPair, config, if_neg noControl, if_neg noRule]
    rw [Reading.follow, ignored, ih others]
    rfl

/-- Before it is delegated, such a field is entered. -/
theorem field_of_delegable (config : reading.config = {}) (path : String) {info : FieldInfo}
    {v : Value} (delegable : info.Delegable v) (enter : Inspect (Except Fatal) Unit) :
    reading.field r root path info (info.shown v) enter = enter := by
  rw [Reading.field, if_pos delegable.exported, FieldInfo.shown, if_neg delegable.shown,
    follow_free config path _ delegable.free, Inspect.pure_bind_strict]
  exact if_pos ⟨rfl, rfl⟩

/-- Once it is delegated, a validator has the last word about it. -/
theorem field_delegated (standard : reading.Standard) (path : String) {info : FieldInfo}
    {v v' : Value} (delegable : info.Delegable v) {outcome : Outcome}
    (nested : r.nested (some root) v' = .ok outcome) (enter : Inspect (Except Fatal) Unit) :
    (reading.field r root path info.delegated (info.delegated.shown v') enter).run =
      .ok ⟨Inspect.reported path outcome, .ok ()⟩ := by
  have shows : info.delegated.shown v' = some v' := if_neg delegable.shown
  have config := standard.config
  have verified : (Reading.verify r root path .nested (some v')).run =
      .ok ⟨Inspect.reported path outcome, .ok .skip⟩ := by
    refine Inspect.bind_run_ok.mpr ⟨[], outcome, Inspect.reported path outcome, ?_, ?_, rfl⟩
    · exact Inspect.perform_run_ok.mpr ⟨nested, rfl⟩
    · refine Inspect.bind_run_ok.mpr ⟨_, (), [], Inspect.report_run path outcome, rfl, ?_⟩
      exact (List.append_nil _).symm
  have first : (reading.followPair r root path (some v') delegation).run =
      .ok ⟨Inspect.reported path outcome, .ok .skip⟩ := by
    have noControl : ¬ delegation.name = ({} : Config).walkTag := by decide
    have rule : delegation.name = ({} : Config).validateTag := rfl
    rw [Reading.followPair, config, if_neg noControl, if_pos rule,
      show reading.meaning delegation.value = .ok .nested from standard.nested]
    exact verified
  have followed : (reading.follow r root path (some v') (annotationPairs info.delegated.tag)).run =
      .ok ⟨Inspect.reported path outcome, .ok .skip⟩ := by
    rw [info.annotationPairs_delegated, Reading.follow]
    refine Inspect.bind_run_ok.mpr ⟨_, .skip, [], first, ?_, (List.append_nil _).symm⟩
    rw [follow_free config path _ delegable.free, Inspect.pure_bind_strict]
    rfl
  rw [shows, Reading.field, if_pos (show info.delegated.exported = true from delegable.exported)]
  exact Inspect.bind_run_ok.mpr ⟨_, .skip, [], followed, rfl, (List.append_nil _).symm⟩

end delegated

/-! ## Structures -/

/-- Pointers do not count as places. -/
theorem content_indirect {m : Type → Type} [Monad m] (reading : Reading) (r : Validator.Runner m)
    (root : Value) (inner : Bool) (path : String) (v : Value) :
    reading.content r root inner path v = reading.content r root inner path v.indirect := by
  match v with
  | .present _ target =>
    rw [Reading.content, Value.indirect]
    exact content_indirect reading r root inner path target
  | .boxed target =>
    rw [Reading.content, Value.indirect]
    exact content_indirect reading r root inner path target
  | .bool _ | .integer _ _ | .single _ | .double _ | .text _ | .fixedText _ | .json _ | .absent _
  | .seq _ | .map _ | .record _ _ | .entry _ _ => rfl

section structures

variable {reading : Reading} {bound : Nat} {root root' : Value}

/-- What is found in a structure inside another one is what is found in its fields, and, if that is
nothing, what its own check finds. -/
theorem content_inner (standard : reading.Standard) {path : String} {type : RecordType}
    {values : List Value} {recorded : List (String × Failure)}
    (runs : (reading.content (reading.runner strict) root true path (.record type values)).run =
      .ok ⟨recorded, .ok ()⟩) :
    ∃ found,
      (reading.content (reading.runner strict) root false path (.record type values)).run =
        .ok ⟨found, .ok ()⟩ ∧
      recorded = found ++ if found = [] then
        Inspect.reported path (Value.record type values).selfCheck else [] := by
  rw [Reading.content] at runs ⊢
  obtain ⟨found, clean, own, isFound, isOwn, rfl⟩ := Inspect.bind_run_ok.mp runs
  have cleanRuns := isFound
  obtain ⟨-, rfl⟩ := Inspect.clean_run_ok.mp isFound
  refine ⟨found, ?_, ?_⟩
  · exact Inspect.bind_run_ok.mpr ⟨found, _, [], cleanRuns, rfl, (List.append_nil _).symm⟩
  · rw [standard.config] at isOwn
    cases found with
    | nil =>
      rw [if_pos rfl]
      have reports : (Inspect.report path (Value.record type values).selfCheck :
        Inspect (Except Fatal) Unit).run = .ok ⟨own, .ok ()⟩ := isOwn
      rw [Inspect.report_run] at reports
      cases reports
      rfl
    | cons first rest =>
      rw [if_neg (List.cons_ne_nil _ _)]
      cases isOwn
      rfl

/-- Validating a structure on its own hands over what was found in it, and, if that is nothing, what
its own check finds. -/
theorem nested_eq_ok_iff (outer : Option Value) {v : Value} {type : RecordType}
    {values : List Value} (leads : v.indirect = .record type values) {outcome : Outcome} :
    reading.nested strict outer v = .ok outcome ↔ ∃ found,
      (reading.content (reading.runner strict) (outer.getD (.record type values)) false "" v).run =
        .ok ⟨found, .ok ()⟩ ∧
      outcome = if (collect found).size = 0 then (Value.record type values).selfCheck
        else .error (.nested (collect found)) := by
  rw [content_indirect, leads, Reading.nested_record reading strict leads, Reading.alone]
  constructor
  · intro is
    obtain ⟨⟨found, result⟩, runs, is⟩ := bind_eq_ok_iff.mp is
    cases result with
    | error e => cases is
    | ok _ =>
      refine ⟨found, runs, ?_⟩
      dsimp only at is
      split at is
      · next none =>
        rw [if_pos none]
        cases is
        rfl
      · next some =>
        rw [if_neg some]
        cases is
        rfl
  · rintro ⟨found, runs, rfl⟩
    refine bind_eq_ok_iff.mpr ⟨_, runs, ?_⟩
    dsimp only
    split <;> rfl

/-- Entering a field finds what its delegation finds. -/
theorem traces_delegated (standard : reading.Standard) {path place : String} {v v' : Value}
    (delegates : v.Delegates v') (regular : v.EveryType RecordType.Regular)
    (structured : (∃ type values, v.indirect = .record type values) ∨
      ∃ content, v.indirect = .absent content)
    (tracks : (tracking (joinPath path place)).Rel
      (reading.content (reading.runner strict) root false (joinPath path place) v)
      (reading.content (reading.runner strict) root' false "" v'))
    {recorded : List (String × Failure)}
    (runs : (reading.content (reading.runner strict) root true (joinPath path place) v).run =
      .ok ⟨recorded, .ok ()⟩) :
    ∃ outcome, reading.nested strict (some root') v' = .ok outcome ∧
      Traces path recorded (Inspect.reported place outcome) := by
  have inner := Value.delegates_indirect delegates
  have own := selfCheck_eq_of_delegates inner
  rw [content_indirect] at runs
  rcases structured with ⟨type, values, leads⟩ | ⟨content, leads⟩
  · have types := Value.everyType_indirect v regular
    rw [leads] at inner own runs types
    rw [Value.EveryType] at types
    obtain ⟨found, isFound, rfl⟩ := content_inner standard runs
    rw [← leads, ← content_indirect] at isFound
    obtain ⟨relative, runs', traces⟩ := tracks found () isFound
    generalize leads' : v'.indirect = u' at inner own
    cases inner with
    | record fields =>
      have nested := (nested_eq_ok_iff (some root') leads').mpr ⟨relative, runs', rfl⟩
      refine ⟨_, nested, ?_⟩
      rw [← own]
      by_cases clean : found = []
      · have clean' := traces.nil_iff.mp clean
        rw [clean, clean', if_pos rfl]
        exact traces_reported path place (solidOutcome_of_plain (plain_selfCheck types.1 values))
      · have some : relative ≠ [] := fun nil => clean (traces.nil_iff.mpr nil)
        rw [if_neg clean, List.append_nil, if_neg (size_collect some traces.solid)]
        exact traces_nested traces some
  · rw [leads] at inner runs
    generalize leads' : v'.indirect = u' at inner
    cases inner with
    | absent _ =>
      have other : ∀ type values, v'.indirect ≠ .record type values := by
        intro type values is
        rw [leads'] at is
        cases is
      refine ⟨.ok (), ?_, ?_⟩
      · rw [Reading.nested_other reading strict other, leads']
        rfl
      · cases runs
        exact traces_nil path

mutual

/-- What is found in a value is found in one that delegates some fields of it. -/
theorem tracking_content (standard : reading.Standard) (agree : NestedAgree reading bound)
    (roots : root.Delegates root') {v v' : Value} (delegates : v.Delegates v')
    (regular : v.EveryType RecordType.Regular) (within : v.depth ≤ bound + 1) (inner : Bool)
    (path place : String) :
    (tracking path).Rel (reading.content (reading.runner strict) root inner (joinPath path place) v)
      (reading.content (reading.runner strict) root' inner place v') := by
  cases delegates with
  | present _ target =>
    rw [Value.EveryType] at regular
    rw [Value.depth] at within
    rw [Reading.content, Reading.content]
    exact tracking_content standard agree roots target regular (by omega) inner path place
  | boxed target =>
    rw [Value.EveryType] at regular
    rw [Value.depth] at within
    rw [Reading.content, Reading.content]
    exact tracking_content standard agree roots target regular (by omega) inner path place
  | record fields =>
    have own := selfCheck_eq_of_delegates (.record fields)
    rw [Value.EveryType] at regular
    rw [Value.depth] at within
    rw [Reading.content, Reading.content, ← own]
    have tracks := tracking_fields standard agree roots fields regular.1.named regular.1.noIndex
      regular.2 (by omega) path place
    refine (tracking path).bind (tracking_clean tracks) fun clean => tracking_when ?_
    exact tracking_report place (solidOutcome_of_plain (plain_selfCheck regular.1 _))
  | seq items =>
    rw [Value.EveryType] at regular
    rw [Value.depth] at within
    rw [Reading.content, Reading.content]
    exact tracking_elements standard agree roots items regular (by omega) path place 0
  | bool _ | integer _ _ | single _ | double _ | text _ | fixedText _ | json _ | absent _ | map _
  | entry _ _ =>
    simp only [Reading.content]
    exact (tracking path).pure _

theorem tracking_fields (standard : reading.Standard) (agree : NestedAgree reading bound)
    (roots : root.Delegates root') {infos infos' : List FieldInfo} {values values' : List Value}
    (delegates : Value.DelegatesFields infos values infos' values')
    (named : ∀ info ∈ infos, Walk.segment {} info ≠ "")
    (noIndex : ∀ info ∈ infos, (Walk.segment {} info).toList.head? ≠ some '[')
    (regular : Value.EveryTypeIn RecordType.Regular values)
    (within : Value.greatestDepth values ≤ bound) (path place : String) :
    (tracking path).Rel
      (reading.fields (reading.runner strict) root (joinPath path place) infos values)
      (reading.fields (reading.runner strict) root' place infos' values') := by
  cases delegates with
  | absent _ =>
    rw [Reading.fields_nil, Reading.fields_nil]
    exact tracking_absentFields standard agree roots place named noIndex
  | surplus _ =>
    rw [Reading.fields, Reading.fields]
    exact (tracking path).pure _
  | @keep info _ _ v _ _ _ first rest =>
    rw [List.forall_mem_cons] at named noIndex
    rw [Value.EveryTypeIn] at regular
    rw [Value.greatestDepth] at within
    have others := tracking_fields standard agree roots rest named.2 noIndex.2 regular.2 (by omega)
      path place
    rw [Reading.fields, Reading.fields, standard.config,
      below_joinPath path place named.1 noIndex.1]
    have enters := tracking_content standard agree roots first regular.1 (by omega) true path
      (below place (Walk.segment {} info))
    have values : FieldValues bound _ _ := fieldValues_shown info first regular.1 (by omega)
    have fields : (tracking path).Rel _ _ :=
      tracking_field standard agree roots (below place (Walk.segment {} info)) info values enters
    exact (tracking path).bind fields fun _ => others
  | @delegate info _ _ v v' _ _ delegable first rest =>
    rw [List.forall_mem_cons] at named noIndex
    rw [Value.EveryTypeIn] at regular
    rw [Value.greatestDepth] at within
    have others := tracking_fields standard agree roots rest named.2 noIndex.2 regular.2 (by omega)
      path place
    rw [Reading.fields, Reading.fields, standard.config, info.segment_delegated,
      below_joinPath path place named.1 noIndex.1]
    refine (tracking path).bind (fun recorded _ runs => ?_) fun _ => others
    -- The validator starts at the field with an empty place.
    have tracks := tracking_content standard agree roots first regular.1 (by omega) false
      (joinPath path (below place (Walk.segment {} info))) ""
    rw [joinPath_empty_right] at tracks
    rw [field_of_delegable standard.config _ delegable] at runs
    obtain ⟨outcome, nested, traces⟩ :=
      traces_delegated standard first regular.1 delegable.structured tracks runs
    exact ⟨_, field_delegated standard _ delegable nested _, traces⟩

theorem tracking_elements (standard : reading.Standard) (agree : NestedAgree reading bound)
    (roots : root.Delegates root') {items items' : List Value}
    (delegates : Value.DelegatesIn items items')
    (regular : Value.EveryTypeIn RecordType.Regular items)
    (within : Value.greatestDepth items ≤ bound) (path place : String) (index : Nat) :
    (tracking path).Rel
      (reading.elements (reading.runner strict) root (joinPath path place) index items)
      (reading.elements (reading.runner strict) root' place index items') := by
  cases delegates with
  | nil =>
    rw [Reading.elements, Reading.elements]
    exact (tracking path).pure _
  | @cons item item' _ _ first rest =>
    rw [Value.EveryTypeIn] at regular
    rw [Value.greatestDepth] at within
    have others := tracking_elements standard agree roots rest regular.2 (by omega) path place
      (index + 1)
    have enters := tracking_content standard agree roots first regular.1 (by omega) true path
      (place ++ "[" ++ toString index ++ "]")
    have same : item'.indirect.isRecord = item.indirect.isRecord := by
      have inner := Value.delegates_indirect first
      generalize item.indirect = u at inner
      generalize item'.indirect = u' at inner
      cases inner <;> rfl
    rw [Reading.elements, Reading.elements, same, index_joinPath]
    exact (tracking path).bind (tracking_when enters) fun _ => others

end

end structures

/-! ## Delegation -/

/-- Nested structures are validated alike, at any depth. -/
theorem nestedAgree {reading : Reading} (standard : reading.Standard) (bound : Nat) :
    NestedAgree reading bound := by
  intro root root' v v' roots delegates regular within outcome is
  have inner := Value.delegates_indirect delegates
  rcases v.record_or_other with ⟨type, values, leads⟩ | other
  · cases bound with
    | zero =>
      have positive := Value.weight_pos leads
      omega
    | succ bound =>
      have own := selfCheck_eq_of_delegates inner
      obtain ⟨found, runs, rfl⟩ := (nested_eq_ok_iff _ leads).mp is
      rw [content_indirect] at runs
      have types := Value.everyType_indirect v regular
      have depth : v.indirect.depth ≤ bound + 1 := by
        have light := Value.depth_le_weight leads
        rw [leads]
        omega
      have agree := nestedAgree standard bound
      obtain ⟨relative, runs', traces⟩ :=
        tracking_content standard agree roots inner types depth false "" "" found () runs
      rw [← content_indirect] at runs'
      rw [collect_eq_of_traces traces]
      rw [leads] at inner own
      generalize leads' : v'.indirect = u' at inner own
      cases inner with
      | record fields =>
        refine (nested_eq_ok_iff (some root') leads').mpr ⟨relative, runs', ?_⟩
        rw [own]
  · have other' : ∀ type values, v'.indirect ≠ .record type values := by
      intro type values leads
      rw [leads] at inner
      generalize leads' : v.indirect = u at inner
      cases inner with
      | record fields => exact other _ _ leads'
    rw [Reading.nested_other reading strict other] at is
    rw [Reading.nested_other reading strict other', ← is]
    generalize v.indirect = u at inner other
    generalize v'.indirect = u' at inner
    cases inner with
    | record fields => exact absurd rfl (other _ _)
    | bool _ | integer _ _ | single _ | double _ | text _ | fixedText _ | json _ | absent _
    | present _ _ | boxed _ | seq _ | map _ | entry _ _ => rfl

/-- An inspection that is ended by no error finds the same if fields are delegated. -/
theorem inspect_of_delegates {reading : Reading} (standard : reading.Standard) {v v' : Value}
    (delegates : v.Delegates v') (regular : v.EveryType RecordType.Regular)
    {result : Except Refusal Unit} (inspects : reading.inspect strict v = .ok result)
    (passes : ∀ e, result ≠ .error (.fatal e)) : reading.inspect strict v' = .ok result := by
  obtain ⟨⟨recorded, ended⟩, runs, is⟩ := bind_eq_ok_iff.mp inspects
  cases ended with
  | error e =>
    cases is
    exact absurd rfl (passes e)
  | ok _ =>
    have agree := nestedAgree standard v.depth
    obtain ⟨relative, runs', traces⟩ :=
      tracking_content standard agree delegates delegates regular (Nat.le_succ _) false "" ""
        recorded () runs
    refine bind_eq_ok_iff.mpr ⟨_, runs', ?_⟩
    dsimp only at is ⊢
    rw [← collect_eq_of_traces traces]
    exact is

end RecordRules

import Mathlib.Data.List.Perm.Basic
import RecordRules.Proofs.Engine.Naming
import RecordRules.Proofs.Engine.Strict
import RecordRules.Proofs.Value.Reordering

/-!
# Where fields report

What an inspection reports of a field is at the place of the field or inside it,
whatever the field holds and whatever its annotations are.

A collection of failures keeps the last failure of each place, so it may matter which of
two failures is recorded first.  It does not matter for different fields of one
structure, since their names part for good.  So the fields of a structure with clean
names of their own may be inspected in any order: what is reported comes to the same.
-/

namespace RecordRules

namespace Table

variable {α : Type}

/-- What is held for a key comes from the entries, or was there before. -/
theorem get?_insertAll (t : Table α) (entries : List (String × α)) (key : String) :
    (t.insertAll entries).get? key = ((empty.insertAll entries).get? key).or (t.get? key) := by
  have same := get?_insertAll_map Function.injective_id t entries key
  rwa [show entries.map (fun entry => (id entry.1, entry.2)) = entries from List.map_id entries,
    id_eq] at same

/-- Entries with different keys may be inserted in any order. -/
theorem insertAll_comm (t : Table α) {entries entries' : List (String × α)}
    (apart : ∀ entry ∈ entries, ∀ entry' ∈ entries', entry.1 ≠ entry'.1) :
    (t.insertAll entries).insertAll entries' = (t.insertAll entries').insertAll entries := by
  refine ext_get? fun key => ?_
  by_cases other : ∀ entry ∈ entries, entry.1 ≠ key
  · rw [get?_insertAll_of_other other, get?_insertAll, get?_insertAll_of_other other,
      ← get?_insertAll]
  · have other' : ∀ entry' ∈ entries', entry'.1 ≠ key := by
      rintro entry' mem' rfl
      exact other fun entry mem => apart entry mem entry' mem'
    rw [get?_insertAll_of_other other', get?_insertAll (t.insertAll entries'),
      get?_insertAll_of_other other', ← get?_insertAll]

end Table

/-! ## Inside a place -/

/-- The place has the name, or is somewhere inside what goes by that name. -/
def Beneath (name place : String) : Prop :=
  ∃ rest, place = name ++ rest ∧ Continues rest

theorem continues_empty : Continues "" :=
  fun _ mem => by cases mem

theorem Continues.append {first rest : String} (continues : Continues first)
    (continues' : Continues rest) : Continues (first ++ rest) := by
  by_cases empty : first = ""
  · rwa [empty, String.empty_append]
  · exact continues_append continues empty rest

theorem beneath_self (name : String) : Beneath name name :=
  ⟨"", String.append_empty.symm, continues_empty⟩

theorem Beneath.append {name place rest : String} (beneath : Beneath name place)
    (continues : Continues rest) : Beneath name (place ++ rest) := by
  obtain ⟨between, rfl, continues'⟩ := beneath
  exact ⟨between ++ rest, String.append_assoc, continues'.append continues⟩

theorem Beneath.ne_empty {name place : String} (beneath : Beneath name place) (named : name ≠ "") :
    place ≠ "" := by
  obtain ⟨rest, rfl, -⟩ := beneath
  exact append_ne_empty named rest

theorem beneath_below {name place : String} (beneath : Beneath name place) (named : name ≠ "")
    (segment : String) : Beneath name (below place segment) := by
  have nonempty : ¬ place.isEmpty := fun is => beneath.ne_empty named (String.isEmpty_iff.mp is)
  rw [below_eq, if_neg nonempty]
  exact beneath.append (continues_dot segment)

theorem beneath_index {name place : String} (beneath : Beneath name place) (index : Nat) :
    Beneath name (place ++ "[" ++ toString index ++ "]") := by
  rw [String.append_assoc, String.append_assoc]
  exact beneath.append (continues_bracket _)

theorem continues_separator (rest : String) : Continues (separator rest ++ rest) := by
  rw [separator]
  split
  · next index =>
    intro c mem
    rw [String.empty_append, index] at mem
    cases mem
    rfl
  · exact continues_dot rest

theorem beneath_joinPath {name place : String} (beneath : Beneath name place) (named : name ≠ "")
    (rest : String) : Beneath name (joinPath place rest) := by
  by_cases empty : rest = ""
  · rwa [empty, joinPath_empty_right]
  · rw [joinPath_of_ne (beneath.ne_empty named) empty]
    exact beneath.append (continues_separator rest)

namespace Failures

/-- Everything is recorded at a place of that name or inside it. -/
def Within (name : String) (recorded : List (String × Failure)) : Prop :=
  ∀ entry ∈ recorded, Beneath name entry.1

theorem within_nil (name : String) : Within name [] :=
  List.forall_mem_nil _

theorem within_append {name : String} {recorded recorded' : List (String × Failure)}
    (first : Within name recorded) (second : Within name recorded') :
    Within name (recorded ++ recorded') :=
  List.forall_mem_append.mpr ⟨first, second⟩

/-- The failures of fields that a failure carries are recorded inside the place of the failure. -/
theorem within_flatMap_single {name : String} {recorded : List (String × Failure)}
    (within : Within name recorded) (named : name ≠ "") :
    Within name (recorded.flatMap single) := by
  intro entry mem
  obtain ⟨source, among, mem⟩ := List.mem_flatMap.mp mem
  have place := within source among
  rw [single] at mem
  split at mem
  · obtain ⟨inner, -, rfl⟩ := List.mem_map.mp mem
    exact beneath_joinPath place named inner.1
  · cases List.mem_singleton.mp mem
    exact place

/-- What is recorded for one field and for another one may be recorded in any order. -/
theorem recordAll_comm {path segment segment' : String} (clean : CleanSegment segment)
    (clean' : CleanSegment segment') (other : segment ≠ segment')
    {recorded recorded' : List (String × Failure)} (within : Within (below path segment) recorded)
    (within' : Within (below path segment') recorded') (fs : Failures) :
    (fs.recordAll recorded).recordAll recorded' = (fs.recordAll recorded').recordAll recorded := by
  rw [recordAll_eq_insertAll, recordAll_eq_insertAll, recordAll_eq_insertAll,
    recordAll_eq_insertAll]
  refine Table.insertAll_comm fs fun entry mem entry' mem' same => other ?_
  have named := below_ne_empty path clean.nonempty
  have named' := below_ne_empty path clean'.nonempty
  obtain ⟨rest, is, continues⟩ := within_flatMap_single within named entry mem
  obtain ⟨rest', is', continues'⟩ := within_flatMap_single within' named' entry' mem'
  rw [is, is'] at same
  exact segment_eq_of_below clean clean' continues continues' same

/-! ## Recordings that come to the same -/

/-- What is recorded comes to the same, and both recordings are empty or neither is. -/
structure Tallies (recorded recorded' : List (String × Failure)) : Prop where
  nil_iff : recorded = [] ↔ recorded' = []
  same : ∀ fs : Failures, fs.recordAll recorded = fs.recordAll recorded'

theorem tallies_refl (recorded : List (String × Failure)) : Tallies recorded recorded where
  nil_iff := Iff.rfl
  same _ := rfl

theorem Tallies.trans {recorded recorded' recorded'' : List (String × Failure)}
    (first : Tallies recorded recorded') (second : Tallies recorded' recorded'') :
    Tallies recorded recorded'' where
  nil_iff := first.nil_iff.trans second.nil_iff
  same fs := (first.same fs).trans (second.same fs)

theorem tallies_append {recorded recorded' later later' : List (String × Failure)}
    (first : Tallies recorded recorded') (second : Tallies later later') :
    Tallies (recorded ++ later) (recorded' ++ later') where
  nil_iff := by rw [List.append_eq_nil_iff, List.append_eq_nil_iff, first.nil_iff, second.nil_iff]
  same fs := by rw [recordAll_append, recordAll_append, first.same, second.same]

theorem collect_eq_of_tallies {recorded recorded' : List (String × Failure)}
    (tallies : Tallies recorded recorded') : collect recorded = collect recorded' :=
  tallies.same {}

theorem recordAll_flatten (fs : Failures) (parts : List (List (String × Failure))) :
    fs.recordAll parts.flatten = parts.foldl recordAll fs :=
  List.foldl_flatten

/-- Recordings that may be swapped may be put in any order. -/
theorem tallies_of_perm {parts parts' : List (List (String × Failure))} (perm : parts.Perm parts')
    (commute : ∀ part ∈ parts, ∀ other ∈ parts, ∀ fs : Failures,
      (fs.recordAll part).recordAll other = (fs.recordAll other).recordAll part) :
    Tallies parts.flatten parts'.flatten where
  nil_iff := by
    rw [List.flatten_eq_nil_iff, List.flatten_eq_nil_iff]
    exact forall_congr' fun part => by rw [perm.mem_iff]
  same fs := by
    rw [recordAll_flatten, recordAll_flatten]
    exact perm.foldl_eq' commute fs

end Failures

open Failures

/-! ## Confined inspections -/

namespace Inspect

variable {α β : Type}

/-- Everything that is reported is at a place of that name or inside it. -/
def Confined (name : String) (x : Inspect (Except Fatal) α) : Prop :=
  ∀ recorded a, x.run = .ok ⟨recorded, .ok a⟩ → Within name recorded

variable {name : String}

theorem confined_pure (a : α) : Confined name (pure a) := by
  intro recorded b is
  cases is
  exact within_nil name

theorem confined_fail (e : Fatal) : Confined name (fail e : Inspect (Except Fatal) α) :=
  fun _ _ is => by cases is

theorem confined_bind {x : Inspect (Except Fatal) α} {f : α → Inspect (Except Fatal) β}
    (first : Confined name x) (rest : ∀ a, Confined name (f a)) : Confined name (x >>= f) := by
  intro recorded b is
  obtain ⟨recorded, a, recorded', isFirst, isSecond, rfl⟩ := bind_run_ok.mp is
  exact within_append (first recorded a isFirst) (rest a recorded' b isSecond)

theorem confined_perform (x : Except Fatal α) : Confined name (perform x) := by
  intro recorded a is
  obtain ⟨-, rfl⟩ := perform_run_ok.mp is
  exact within_nil name

theorem confined_report {path : String} (beneath : Beneath name path) (outcome : Outcome) :
    Confined name (report path outcome) := by
  intro recorded a is
  rw [report_run] at is
  cases is
  cases outcome with
  | ok _ => exact within_nil name
  | error e => exact List.forall_mem_singleton.mpr beneath

theorem confined_when {c : Prop} [Decidable c] {x : Inspect (Except Fatal) Unit}
    (confined : Confined name x) : Confined name (when c x) := by
  unfold Inspect.when
  split
  · exact confined
  · exact confined_pure ()

theorem confined_clean {x : Inspect (Except Fatal) Unit} (confined : Confined name x) :
    Confined name x.clean := by
  intro recorded clean is
  obtain ⟨runs, -⟩ := clean_run_ok.mp is
  exact confined recorded () runs

end Inspect

open Inspect

namespace Reading

section confined

variable (reading : Reading) (r : Validator.Runner (Except Fatal)) (root : Value)
  {name path : String}

theorem confined_verify (beneath : Beneath name path) (validator : Validator)
    (value : Option Value) : Confined name (verify r root path validator value) := by
  cases value with
  | none => exact confined_fail _
  | some v =>
    refine confined_bind (confined_perform _) fun outcome => ?_
    exact confined_bind (confined_report beneath outcome) fun _ => confined_pure _

theorem confined_followPair (beneath : Beneath name path) (value : Option Value) (pair : Pair) :
    Confined name (reading.followPair r root path value pair) := by
  unfold followPair
  split
  · cases PlainHandler.parseVerdict pair.value with
    | ok verdict => exact confined_pure verdict
    | error e => exact confined_fail _
  · split
    · cases reading.meaning pair.value with
      | ok validator => exact confined_verify r root beneath validator value
      | error e => exact confined_fail _
    · exact confined_pure _

theorem confined_follow (beneath : Beneath name path) (value : Option Value) (pairs : List Pair) :
    Confined name (reading.follow r root path value pairs) := by
  induction pairs with
  | nil => exact confined_pure _
  | cons pair pairs ih =>
    refine confined_bind (confined_followPair reading r root beneath value pair) fun _ => ?_
    exact confined_bind ih fun _ => confined_pure _

theorem confined_field (beneath : Beneath name path) (info : FieldInfo) (value : Option Value)
    {enter : Inspect (Except Fatal) Unit} (enters : Confined name enter) :
    Confined name (reading.field r root path info value enter) := by
  unfold field
  split
  · refine confined_bind (confined_follow reading r root beneath value _) fun _ => ?_
    exact confined_when enters
  · exact confined_pure ()

theorem confined_absentFields (beneath : Beneath name path) (named : name ≠ "")
    (infos : List FieldInfo) : Confined name (reading.absentFields r root path infos) := by
  induction infos with
  | nil => exact confined_pure ()
  | cons info infos ih =>
    rw [absentFields]
    have place := beneath_below beneath named (Walk.segment reading.config info)
    exact confined_bind (confined_field reading r root place info none (confined_pure ()))
      fun _ => ih

mutual

/-- What is reported of a value is at its place or inside it. -/
theorem confined_content (named : name ≠ "") (inner : Bool) {path : String}
    (beneath : Beneath name path) (v : Value) :
    Confined name (reading.content r root inner path v) := by
  match v with
  | .present _ target =>
    rw [content]
    exact confined_content named inner beneath target
  | .boxed target =>
    rw [content]
    exact confined_content named inner beneath target
  | .record type values =>
    rw [content]
    have fields := confined_fields named beneath type.fields values
    refine confined_bind (confined_clean fields) fun _ => confined_when ?_
    exact confined_report beneath _
  | .seq items =>
    rw [content]
    exact confined_elements named beneath 0 items
  | .bool _ | .integer _ _ | .single _ | .double _ | .text _ | .fixedText _ | .json _ | .absent _
  | .map _ | .entry _ _ =>
    simp only [content]
    exact confined_pure ()
termination_by structural v

theorem confined_fields (named : name ≠ "") {path : String} (beneath : Beneath name path)
    (infos : List FieldInfo) (values : List Value) :
    Confined name (reading.fields r root path infos values) := by
  match infos, values with
  | infos, [] =>
    rw [fields_nil]
    exact confined_absentFields reading r root beneath named infos
  | [], _ :: _ =>
    rw [fields]
    exact confined_pure ()
  | info :: infos, v :: values =>
    rw [fields]
    have place := beneath_below beneath named (Walk.segment reading.config info)
    have enters := confined_content named true place v
    have first := confined_field reading r root place info (info.shown v) enters
    exact confined_bind first fun _ => confined_fields named beneath infos values
termination_by structural values

theorem confined_elements (named : name ≠ "") {path : String} (beneath : Beneath name path)
    (index : Nat) (items : List Value) :
    Confined name (reading.elements r root path index items) := by
  match items with
  | [] =>
    rw [elements]
    exact confined_pure ()
  | item :: items =>
    rw [elements]
    have enters := confined_content named true (beneath_index beneath index) item
    exact confined_bind (confined_when enters) fun _ =>
      confined_elements named beneath (index + 1) items
termination_by structural items

end

end confined

/-! ## Fields in any order -/

section rearranged

theorem exists_of_forall₂ {α β : Type} {R : α → β → Prop} {as : List α} {bs : List β}
    (related : List.Forall₂ R as bs) {b : β} (mem : b ∈ bs) : ∃ a ∈ as, R a b := by
  induction related with
  | nil => cases mem
  | @cons a _ _ _ first _ ih =>
    rcases List.mem_cons.mp mem with rfl | mem
    · exact ⟨a, List.mem_cons_self, first⟩
    · obtain ⟨other, among, holds⟩ := ih mem
      exact ⟨other, List.mem_cons_of_mem _ among, holds⟩

variable {reading : Reading} {r : Validator.Runner (Except Fatal)} {root : Value} {path : String}

/-- The inspection of a field of the structure at a path. -/
def member (reading : Reading) (r : Validator.Runner (Except Fatal)) (root : Value) (path : String)
    (f : FieldInfo × Value) : Inspect (Except Fatal) Unit :=
  let place := below path (Walk.segment reading.config f.1)
  reading.field r root place f.1 (f.1.shown f.2) (reading.content r root true place f.2)

/-- Fields that all have values are inspected one after the other. -/
theorem fields_run_ok {infos : List FieldInfo} {values : List Value}
    (length : infos.length = values.length) {recorded : List (String × Failure)} :
    (reading.fields r root path infos values).run = .ok ⟨recorded, .ok ()⟩ ↔
      ∃ parts, List.Forall₂ (fun f part => (reading.member r root path f).run =
        .ok ⟨part, .ok ()⟩) (infos.zip values) parts ∧ recorded = parts.flatten := by
  induction infos generalizing values recorded with
  | nil =>
    rw [fields]
    constructor
    · intro is
      cases is
      exact ⟨[], .nil, rfl⟩
    · rintro ⟨parts, run, rfl⟩
      cases run
      rfl
  | cons info infos ih =>
    cases values with
    | nil => cases length
    | cons v values =>
      have shorter : infos.length = values.length := Nat.succ.inj length
      rw [fields]
      constructor
      · intro is
        obtain ⟨part, _, rest, isFirst, isRest, rfl⟩ := bind_run_ok.mp is
        obtain ⟨parts, run, rfl⟩ := (ih shorter).mp isRest
        exact ⟨part :: parts, .cons isFirst run, rfl⟩
      · rintro ⟨parts, run, rfl⟩
        cases run with
        | cons isFirst run =>
          exact bind_run_ok.mpr ⟨_, (), _, isFirst, (ih shorter).mpr ⟨_, run, rfl⟩, rfl⟩

/-- A field that is not exported reports nothing. -/
theorem member_unexported {f : FieldInfo × Value} (unexported : ¬ f.1.exported)
    {part : List (String × Failure)}
    (runs : (reading.member r root path f).run = .ok ⟨part, .ok ()⟩) : part = [] := by
  rw [member, field, if_neg unexported] at runs
  cases runs
  rfl

theorem member_confined {f : FieldInfo × Value}
    (clean : CleanSegment (Walk.segment reading.config f.1)) :
    Confined (below path (Walk.segment reading.config f.1)) (reading.member r root path f) := by
  have named := below_ne_empty path clean.nonempty
  have place := beneath_self (below path (Walk.segment reading.config f.1))
  exact confined_field reading r root place f.1 _
    (confined_content reading r root named true place f.2)

/-- What is reported of two fields of a structure may be recorded in any order. -/
theorem member_comm {type : RecordType} (distinguishes : type.Distinguishes reading.config)
    {values : List Value} (length : type.fields.length = values.length) {f g : FieldInfo × Value}
    (mem : f ∈ type.fields.zip values) (mem' : g ∈ type.fields.zip values)
    {part other : List (String × Failure)}
    (runs : (reading.member r root path f).run = .ok ⟨part, .ok ()⟩)
    (runs' : (reading.member r root path g).run = .ok ⟨other, .ok ()⟩) (fs : Failures) :
    (fs.recordAll part).recordAll other = (fs.recordAll other).recordAll part := by
  by_cases exported : f.1.exported
  · by_cases exported' : g.1.exported
    · have clean := distinguishes.clean f.1 (List.of_mem_zip mem).1 exported
      have clean' := distinguishes.clean g.1 (List.of_mem_zip mem').1 exported'
      by_cases same : Walk.segment reading.config f.1 = Walk.segment reading.config g.1
      · have nodup := distinguishes.nodup
        rw [← List.map_fst_zip (Nat.le_of_eq length), List.filter_map, List.map_map] at nodup
        have known : f ∈ (type.fields.zip values).filter ((·.exported) ∘ Prod.fst) :=
          List.mem_filter.mpr ⟨mem, exported⟩
        have known' : g ∈ (type.fields.zip values).filter ((·.exported) ∘ Prod.fst) :=
          List.mem_filter.mpr ⟨mem', exported'⟩
        cases List.inj_on_of_nodup_map nodup known known' same
        cases runs.symm.trans runs'
        rfl
      · exact recordAll_comm clean clean' same (member_confined clean _ _ runs)
          (member_confined clean' _ _ runs') fs
    · rw [member_unexported exported' runs']
      rfl
  · rw [member_unexported exported runs]
    rfl

/-- The fields of a structure that tells them apart may be inspected in any order. -/
theorem fields_of_rearranged {type : RecordType} (distinguishes : type.Distinguishes reading.config)
    {infos' : List FieldInfo} {values values' : List Value}
    (rearranged : Rearranged type.fields values infos' values')
    {recorded : List (String × Failure)}
    (runs : (reading.fields r root path type.fields values).run = .ok ⟨recorded, .ok ()⟩) :
    ∃ recorded', (reading.fields r root path infos' values').run = .ok ⟨recorded', .ok ()⟩ ∧
      Tallies recorded recorded' := by
  obtain ⟨parts, run, rfl⟩ := (fields_run_ok rearranged.length).mp runs
  obtain ⟨parts', run', perm⟩ := List.perm_comp_forall₂ rearranged.perm.symm run
  refine ⟨parts'.flatten, (fields_run_ok rearranged.length').mpr ⟨parts', run', rfl⟩, ?_⟩
  refine tallies_of_perm perm.symm fun part mem other mem' fs => ?_
  obtain ⟨f, among, isPart⟩ := exists_of_forall₂ run mem
  obtain ⟨g, among', isOther⟩ := exists_of_forall₂ run mem'
  exact member_comm distinguishes rearranged.length among among' isPart isOther fs

end rearranged

end Reading

end RecordRules

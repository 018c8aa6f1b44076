import RecordRules.Proofs.Engine.Confining
import RecordRules.Proofs.Engine.Delegating
import RecordRules.Proofs.Engine.Once
import RecordRules.Proofs.Value.Picturing

/-!
# Inspections of reordered values

A value and one that reorders its fields are inspected side by side.  Field by field
the same is found, since built-in checks do not see the order of fields; and what is
found in the fields of a structure comes to the same in any order.  That something has
been found at all does not depend on the order either, so a structure makes its own
check on both sides or on neither.
-/

namespace RecordRules

open Failures

/-! ## Orderly types -/

/-- The validator makes built-in checks only. -/
def Validator.Stock (w : Validator) : Prop :=
  ∀ c ∈ w.checks, ∀ custom, c ≠ .custom custom

/-- A structure type whose fields can be told apart by clean names and by names of their own, with
rules that make built-in checks only, and whose own check addresses the fields by their names. -/
structure Reading.Orderly (reading : Reading) (type : RecordType) : Prop where
  distinguishes : type.Distinguishes reading.config
  names : type.DistinctNames
  stock : ∀ info ∈ type.fields, ∀ text ∈ reading.config.rules info, ∀ w,
    reading.meaning text = .ok w → w.Stock
  byName : ∀ check, type.selfCheck = some check → Snapshot.ByName check

/-! ## Tallying -/

/-- Inspections the second of which succeeds if the first one does, with the same result and with a
report that comes to the same. -/
def tallying : MonadRelation (Inspect (Except Fatal)) (Inspect (Except Fatal)) where
  Rel x y := ∀ recorded a, x.run = .ok ⟨recorded, .ok a⟩ →
    ∃ recorded', y.run = .ok ⟨recorded', .ok a⟩ ∧ Tallies recorded recorded'
  pure a recorded b is := by
    cases is
    exact ⟨[], rfl, tallies_refl []⟩
  bind {α β x y f g} first second recorded b is := by
    obtain ⟨recorded, a, later, isFirst, isSecond, rfl⟩ := Inspect.bind_run_ok.mp is
    obtain ⟨recorded', isFirst', tallies⟩ := first recorded a isFirst
    obtain ⟨later', isSecond', tallies'⟩ := second a later b isSecond
    refine ⟨recorded' ++ later', ?_, tallies_append tallies tallies'⟩
    exact Inspect.bind_run_ok.mpr ⟨recorded', a, later', isFirst', isSecond', rfl⟩

section tallying

variable {α β : Type}

theorem tallying_trans {x y z : Inspect (Except Fatal) α} (first : tallying.Rel x y)
    (second : tallying.Rel y z) : tallying.Rel x z := by
  intro recorded a is
  obtain ⟨recorded', is', tallies⟩ := first recorded a is
  obtain ⟨recorded'', is'', tallies'⟩ := second recorded' a is'
  exact ⟨recorded'', is'', tallies.trans tallies'⟩

theorem tallying_fail (e : Fatal) (y : Inspect (Except Fatal) α) :
    tallying.Rel (Inspect.fail e) y :=
  fun _ _ is => by cases is

theorem tallying_when {c : Prop} [Decidable c] {x y : Inspect (Except Fatal) Unit}
    (tallies : tallying.Rel x y) : tallying.Rel (Inspect.when c x) (Inspect.when c y) := by
  unfold Inspect.when
  split
  · exact tallies
  · exact tallying.pure ()

theorem tallying_clean {x y : Inspect (Except Fatal) Unit} (tallies : tallying.Rel x y) :
    tallying.Rel x.clean y.clean := by
  intro recorded clean is
  obtain ⟨runs, rfl⟩ := Inspect.clean_run_ok.mp is
  obtain ⟨recorded', runs', same⟩ := tallies recorded () runs
  refine ⟨recorded', Inspect.clean_run_ok.mpr ⟨runs', ?_⟩, same⟩
  rw [Bool.eq_iff_iff, List.isEmpty_iff, List.isEmpty_iff, same.nil_iff]

theorem tallying_report (path : String) (outcome : Outcome) :
    tallying.Rel (Inspect.report path outcome) (Inspect.report path outcome) :=
  fun recorded _ is => ⟨recorded, is, tallies_refl recorded⟩

theorem tallying_perform {x y : Except Fatal α} (agrees : agreeing.Rel x y) :
    tallying.Rel (Inspect.perform x) (Inspect.perform y) := by
  intro recorded a is
  obtain ⟨gives, rfl⟩ := Inspect.perform_run_ok.mp is
  exact ⟨[], Inspect.perform_run_ok.mpr ⟨agrees a gives, rfl⟩, tallies_refl []⟩

end tallying

/-! ## Fields -/

section fields

variable {reading : Reading} {bound : Nat}

/-- Nested structures are validated alike up to a depth, whatever the order of the fields in
them. -/
def NestedTally (reading : Reading) (bound : Nat) : Prop :=
  ∀ (outer outer' : Option Value) (v v' : Value), v.Reorders v' → v.EveryType reading.Orderly →
    v.weight ≤ bound →
    agreeing.Rel (reading.nested strict outer v) (reading.nested strict outer' v')

/-- A validator with built-in checks finds the same in reordered values. -/
theorem agreeing_run_of_stock (nested : NestedTally reading bound) (outer outer' : Option Value)
    {w : Validator} (stock : w.Stock) {v v' : Value} (reorders : v.Reorders v')
    (orderly : v.EveryType reading.Orderly) (within : v.weight ≤ bound) :
    agreeing.Rel (w.run (reading.runner strict) outer v)
      (w.run (reading.runner strict) outer' v') := by
  have closed : ∀ v : Value, v.EveryType reading.Orderly ∧ v.weight ≤ bound →
      ∀ u ∈ v.parts, u.EveryType reading.Orderly ∧ u.weight ≤ bound := by
    rintro v ⟨orderly, within⟩ u mem
    have types := Value.everyType_parts orderly u mem
    have light := Value.weight_parts u mem
    exact ⟨types, by omega⟩
  have parts := Value.partsRelated_reorders closed
  refine Validator.run_related agreeing parts ?_ w ?_ ⟨reorders, orderly, within⟩
  · rintro u u' ⟨reorders, orderly, within⟩
    exact nested outer outer' u u' reorders orderly within
  · rintro c mem u u' ⟨reorders, -⟩ outcome is
    rw [← is]
    exact congrArg Except.ok (Check.test_eq_of_reorders (stock c mem) outer outer' reorders).symm

variable {root root' : Value} {path : String}

/-- Values of a field that differ in the order of fields inside, or none on both sides. -/
def ValuesTally (reading : Reading) (bound : Nat) : Option Value → Option Value → Prop :=
  Option.Rel fun v v' => v.Reorders v' ∧ v.EveryType reading.Orderly ∧ v.depth ≤ bound

theorem isSome_eq_of_valuesTally {value value' : Option Value}
    (values : ValuesTally reading bound value value') : value.isSome = value'.isSome := by
  cases values <;> rfl

theorem valuesTally_shown (info : FieldInfo) {v v' : Value} (reorders : v.Reorders v')
    (orderly : v.EveryType reading.Orderly) (within : v.depth ≤ bound) :
    ValuesTally reading bound (info.shown v) (info.shown v') := by
  unfold FieldInfo.shown
  split
  · exact .none
  · exact .some ⟨reorders, orderly, within⟩

theorem tallying_verify (nested : NestedTally reading bound) {w : Validator} (stock : w.Stock)
    {value value' : Option Value} (values : ValuesTally reading bound value value') :
    tallying.Rel (Reading.verify (reading.runner strict) root path w value)
      (Reading.verify (reading.runner strict) root' path w value') := by
  cases values with
  | none => exact tallying_fail _ _
  | @some v _ both =>
    obtain ⟨reorders, orderly, within⟩ := both
    have light : v.weight ≤ bound := Nat.le_trans (Value.weight_le_depth v) within
    have agrees :=
      agreeing_run_of_stock nested (some root) (some root') stock reorders orderly light
    refine tallying.bind (tallying_perform agrees) fun outcome => ?_
    exact tallying.bind (tallying_report path outcome) fun _ => tallying.pure _

theorem tallying_followPair (nested : NestedTally reading bound) {pair : Pair}
    (stock : pair.name = reading.config.validateTag → ∀ w,
      reading.meaning pair.value = .ok w → w.Stock)
    {value value' : Option Value} (values : ValuesTally reading bound value value') :
    tallying.Rel (reading.followPair (reading.runner strict) root path value pair)
      (reading.followPair (reading.runner strict) root' path value' pair) := by
  unfold Reading.followPair
  split
  · cases PlainHandler.parseVerdict pair.value with
    | ok verdict => exact tallying.pure verdict
    | error e => exact tallying_fail _ _
  · split
    · next rule =>
      cases means : reading.meaning pair.value with
      | ok w => exact tallying_verify nested (stock rule w means) values
      | error e => exact tallying_fail _ _
    · exact tallying.pure _

theorem tallying_follow (nested : NestedTally reading bound) {pairs : List Pair}
    (stock : ∀ pair ∈ pairs, pair.name = reading.config.validateTag → ∀ w,
      reading.meaning pair.value = .ok w → w.Stock)
    {value value' : Option Value} (values : ValuesTally reading bound value value') :
    tallying.Rel (reading.follow (reading.runner strict) root path value pairs)
      (reading.follow (reading.runner strict) root' path value' pairs) := by
  induction pairs with
  | nil => exact tallying.pure _
  | cons pair pairs ih =>
    obtain ⟨here, later⟩ := List.forall_mem_cons.mp stock
    refine tallying.bind (tallying_followPair nested here values) fun _ => ?_
    exact tallying.bind (ih later) fun _ => tallying.pure _

theorem tallying_field (nested : NestedTally reading bound) {info : FieldInfo}
    (stock : ∀ text ∈ reading.config.rules info, ∀ w, reading.meaning text = .ok w → w.Stock)
    {value value' : Option Value} (values : ValuesTally reading bound value value')
    {enter enter' : Inspect (Except Fatal) Unit} (enters : tallying.Rel enter enter') :
    tallying.Rel (reading.field (reading.runner strict) root path info value enter)
      (reading.field (reading.runner strict) root' path info value' enter') := by
  have rules : ∀ pair ∈ annotationPairs info.tag, pair.name = reading.config.validateTag → ∀ w,
      reading.meaning pair.value = .ok w → w.Stock := by
    intro pair mem rule
    refine stock pair.value (List.mem_map_of_mem (List.mem_filter.mpr ⟨mem, ?_⟩))
    simpa using rule
  unfold Reading.field
  split
  · rw [← isSome_eq_of_valuesTally values]
    exact tallying.bind (tallying_follow nested rules values) fun _ => tallying_when enters
  · exact tallying.pure ()

end fields

/-! ## Structures -/

section structures

variable {reading : Reading} {bound : Nat} {root root' : Value}

theorem selfCheck_eq_of_orderly {v v' : Value} (reorders : v.Reorders v')
    (orderly : v.EveryType reading.Orderly) : v.selfCheck = v'.selfCheck :=
  Value.selfCheck_eq_of_reorders reorders
    (Value.everyType_mono (fun _ orderly => orderly.names) orderly)
    (Value.everyType_mono (fun _ orderly => orderly.byName) orderly)

theorem isRecord_eq_of_reorders {v v' : Value} (reorders : v.Reorders v') :
    v.indirect.isRecord = v'.indirect.isRecord := by
  have inner := Value.reorders_indirect reorders
  generalize v.indirect = u, v'.indirect = u' at inner ⊢
  cases inner <;> rfl

theorem tallying_rearranged {type : RecordType} (distinguishes : type.Distinguishes reading.config)
    {infos' : List FieldInfo} {values values' : List Value}
    (rearranged : Rearranged type.fields values infos' values') (root : Value) (path : String) :
    tallying.Rel (reading.fields (reading.runner strict) root path type.fields values)
      (reading.fields (reading.runner strict) root path infos' values') :=
  fun _ _ runs => Reading.fields_of_rearranged distinguishes rearranged runs

mutual

/-- What is found in a value comes to what is found in one that reorders its fields. -/
theorem tallying_content (nested : NestedTally reading bound) {v v' : Value}
    (reorders : v.Reorders v') (orderly : v.EveryType reading.Orderly)
    (within : v.depth ≤ bound + 1) (inner : Bool) (path : String) :
    tallying.Rel (reading.content (reading.runner strict) root inner path v)
      (reading.content (reading.runner strict) root' inner path v') := by
  cases reorders with
  | present target =>
    rw [Value.EveryType] at orderly
    rw [Value.depth] at within
    rw [Reading.content, Reading.content]
    exact tallying_content nested target orderly (by omega) inner path
  | boxed target =>
    rw [Value.EveryType] at orderly
    rw [Value.depth] at within
    rw [Reading.content, Reading.content]
    exact tallying_content nested target orderly (by omega) inner path
  | record inside rearranged =>
    have own := selfCheck_eq_of_orderly (.record inside rearranged) orderly
    rw [Value.EveryType] at orderly
    rw [Value.depth] at within
    rw [Reading.content, Reading.content, ← own]
    have length := rearranged.length.trans (Value.length_eq_of_reordersIn inside).symm
    have oneByOne := tallying_fields nested inside length orderly.1.stock orderly.2 (by omega) path
    have inOrder := tallying_rearranged orderly.1.distinguishes rearranged root' path
    have fields := tallying_trans oneByOne inOrder
    refine tallying.bind (tallying_clean fields) fun clean => tallying_when ?_
    exact tallying_report path _
  | seq items =>
    rw [Value.EveryType] at orderly
    rw [Value.depth] at within
    rw [Reading.content, Reading.content]
    exact tallying_elements nested items orderly (by omega) path 0
  | bool _ | integer _ _ | single _ | double _ | text _ | fixedText _ | json _ | absent _ _
  | map _ | entry _ _ =>
    simp only [Reading.content]
    exact tallying.pure ()

theorem tallying_fields (nested : NestedTally reading bound) {infos : List FieldInfo}
    {values values' : List Value} (reorders : Value.ReordersIn values values')
    (length : infos.length = values.length)
    (stock : ∀ info ∈ infos, ∀ text ∈ reading.config.rules info, ∀ w,
      reading.meaning text = .ok w → w.Stock)
    (orderly : Value.EveryTypeIn reading.Orderly values)
    (within : Value.greatestDepth values ≤ bound) (path : String) :
    tallying.Rel (reading.fields (reading.runner strict) root path infos values)
      (reading.fields (reading.runner strict) root' path infos values') := by
  cases reorders with
  | nil =>
    cases List.length_eq_zero_iff.mp length
    rw [Reading.fields, Reading.fields]
    exact tallying.pure ()
  | cons first rest =>
    obtain ⟨info, infos, rfl⟩ := List.exists_cons_of_length_eq_add_one length
    obtain ⟨here, later⟩ := List.forall_mem_cons.mp stock
    rw [Value.EveryTypeIn] at orderly
    rw [Value.greatestDepth] at within
    have others := tallying_fields nested rest (Nat.succ.inj length) later orderly.2 (by omega) path
    have enters := tallying_content nested first orderly.1 (by omega) true
      (below path (Walk.segment reading.config info))
    have values := valuesTally_shown info first orderly.1 (show _ ≤ bound by omega)
    rw [Reading.fields, Reading.fields]
    exact tallying.bind (tallying_field nested here values enters) fun _ => others

theorem tallying_elements (nested : NestedTally reading bound) {items items' : List Value}
    (reorders : Value.ReordersIn items items')
    (orderly : Value.EveryTypeIn reading.Orderly items)
    (within : Value.greatestDepth items ≤ bound) (path : String) (index : Nat) :
    tallying.Rel (reading.elements (reading.runner strict) root path index items)
      (reading.elements (reading.runner strict) root' path index items') := by
  cases reorders with
  | nil =>
    rw [Reading.elements, Reading.elements]
    exact tallying.pure ()
  | cons first rest =>
    rw [Value.EveryTypeIn] at orderly
    rw [Value.greatestDepth] at within
    have others := tallying_elements nested rest orderly.2 (by omega) path (index + 1)
    have enters := tallying_content nested first orderly.1 (by omega) true
      (path ++ "[" ++ toString index ++ "]")
    rw [Reading.elements, Reading.elements, isRecord_eq_of_reorders first]
    exact tallying.bind (tallying_when enters) fun _ => others

end

end structures

/-! ## Nested structures -/

theorem noStructure_eq_of_reorders {v v' : Value} (reorders : v.Reorders v') :
    v.noStructure = v'.noStructure := by
  have alike := Value.view_alike reorders
  rw [Value.noStructure, Value.noStructure]
  generalize v.view = view, v'.view = view' at alike ⊢
  cases alike <;> rfl

/-- Nested structures are validated alike, at any depth. -/
theorem nestedTally (reading : Reading) (bound : Nat) : NestedTally reading bound := by
  intro outer outer' v v' reorders orderly within outcome is
  have inner := Value.reorders_indirect reorders
  rcases v.record_or_other with ⟨type, values, leads⟩ | other
  · cases bound with
    | zero =>
      have positive := Value.weight_pos leads
      omega
    | succ bound =>
      have types := Value.everyType_indirect v orderly
      have own := selfCheck_eq_of_orderly inner types
      have depth : v.indirect.depth ≤ bound + 1 := by
        have light := Value.depth_le_weight leads
        rw [leads]
        omega
      obtain ⟨found, runs, rfl⟩ := (nested_eq_ok_iff outer leads).mp is
      rw [content_indirect] at runs
      rw [leads] at inner own
      generalize leads' : v'.indirect = u' at inner own
      cases inner with
      | @record _ infos' _ _ values' inside rearranged =>
        obtain ⟨found', runs', tallies⟩ := tallying_content (nestedTally reading bound)
          (Value.reorders_indirect reorders) types depth false "" found () runs
        rw [← content_indirect] at runs'
        refine (nested_eq_ok_iff outer' leads').mpr ⟨found', runs', ?_⟩
        rw [collect_eq_of_tallies tallies, own]
  · have other' : ∀ type values, v'.indirect ≠ .record type values := by
      intro type values leads
      have same := isRecord_eq_of_reorders reorders
      rw [leads] at same
      cases leads' : v.indirect with
      | record type values => exact other type values leads'
      | bool _ | integer _ _ | single _ | double _ | text _ | fixedText _ | json _ | absent _
      | present _ _ | boxed _ | seq _ | map _ | entry _ _ =>
        rw [leads'] at same
        cases same
    rw [Reading.nested_other reading strict other] at is
    rw [Reading.nested_other reading strict other', ← is, noStructure_eq_of_reorders inner]

/-- An inspection that is ended by no error finds the same in a value that reorders fields. -/
theorem inspect_of_reorders {reading : Reading} {v v' : Value} (reorders : v.Reorders v')
    (orderly : v.EveryType reading.Orderly) {result : Except Refusal Unit}
    (inspects : reading.inspect strict v = .ok result)
    (passes : ∀ e, result ≠ .error (.fatal e)) : reading.inspect strict v' = .ok result := by
  obtain ⟨⟨recorded, ended⟩, runs, is⟩ := bind_eq_ok_iff.mp inspects
  cases ended with
  | error e =>
    cases is
    exact absurd rfl (passes e)
  | ok _ =>
    obtain ⟨recorded', runs', tallies⟩ := tallying_content (nestedTally reading v.depth) reorders
      orderly (Nat.le_succ _) false "" recorded () runs
    refine bind_eq_ok_iff.mpr ⟨_, runs', ?_⟩
    dsimp only at is ⊢
    rw [← collect_eq_of_tallies tallies]
    exact is

end RecordRules

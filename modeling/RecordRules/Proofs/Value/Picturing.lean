import Mathlib.Data.List.Find
import Mathlib.Data.List.Nodup
import RecordRules.Proofs.Value.Reordering

/-!
# Pictures of reordered values

The check that a structure makes of itself sees a picture of the structure, with the
fields in order.  Pictures of a value and of one that reorders it differ in this order
and in nothing else, so a check that addresses fields by their names gives the same
outcome for both.
-/

namespace RecordRules

namespace Snapshot

mutual

/-- The second picture is the first one with the fields of some structures in another order.  Their
names tell the fields of such a structure apart. -/
inductive Reorders : Snapshot → Snapshot → Prop
  | refl (picture : Snapshot) : Reorders picture picture
  | record {name : String} {fields between fields' : List (String × Snapshot)} :
    ReordersFields fields between → between.Perm fields' → (between.map Prod.fst).Nodup →
    Reorders (.record name fields) (.record name fields')
  | seq {items items' : List Snapshot} :
    ReordersIn items items' → Reorders (.seq items) (.seq items')
  | map {entries entries' : List (Snapshot × Snapshot)} :
    ReordersOf entries entries' → Reorders (.map entries) (.map entries')
  | pointer {target target' : Snapshot} :
    Reorders target target' → Reorders (.pointer target) (.pointer target')
  | entry {key key' value value' : Snapshot} :
    Reorders key key' → Reorders value value' → Reorders (.entry key value) (.entry key' value')

/-- The same for pictures one by one. -/
inductive ReordersIn : List Snapshot → List Snapshot → Prop
  | nil : ReordersIn [] []
  | cons {picture picture' : Snapshot} {pictures pictures' : List Snapshot} :
    Reorders picture picture' → ReordersIn pictures pictures' →
    ReordersIn (picture :: pictures) (picture' :: pictures')

/-- The same for the entries of a map. -/
inductive ReordersOf : List (Snapshot × Snapshot) → List (Snapshot × Snapshot) → Prop
  | nil : ReordersOf [] []
  | cons {key key' value value' : Snapshot} {entries entries' : List (Snapshot × Snapshot)} :
    Reorders key key' → Reorders value value' → ReordersOf entries entries' →
    ReordersOf ((key, value) :: entries) ((key', value') :: entries')

/-- The same for fields, each of which keeps its name. -/
inductive ReordersFields : List (String × Snapshot) → List (String × Snapshot) → Prop
  | nil : ReordersFields [] []
  | cons (name : String) {picture picture' : Snapshot} {fields fields' : List (String × Snapshot)} :
    Reorders picture picture' → ReordersFields fields fields' →
    ReordersFields ((name, picture) :: fields) ((name, picture') :: fields')

end

/-- A check that addresses the fields of structures by their names. -/
def ByName (check : Snapshot → Outcome) : Prop :=
  ∀ picture picture' : Snapshot, picture.Reorders picture' → check picture = check picture'

end Snapshot

/-! ## Pictures of values -/

namespace RecordType

/-- The fields of a structure type have names of their own. -/
def DistinctNames (type : RecordType) : Prop :=
  (type.fields.map FieldInfo.name).Nodup

instance (type : RecordType) : Decidable type.DistinctNames :=
  inferInstanceAs (Decidable (List.Nodup _))

end RecordType

namespace Value

/-- The picture of a field. -/
def fieldSnapshot (f : FieldInfo × Value) : String × Snapshot :=
  (f.1.name, if f.1.access = .hidden then .hidden else f.2.snapshot)

theorem fieldSnapshots_eq_map (infos : List FieldInfo) (vs : List Value) :
    fieldSnapshots infos vs = (infos.zip vs).map fieldSnapshot := by
  induction infos generalizing vs with
  | nil => simp [fieldSnapshots]
  | cons info infos ih =>
    cases vs with
    | nil => rfl
    | cons v vs =>
      rw [fieldSnapshots, List.zip_cons_cons, List.map_cons, ih vs]
      rfl

theorem names_fieldSnapshots {infos : List FieldInfo} {vs : List Value}
    (length : infos.length = vs.length) :
    (fieldSnapshots infos vs).map Prod.fst = infos.map FieldInfo.name := by
  have names := congrArg (List.map FieldInfo.name) (List.map_fst_zip (Nat.le_of_eq length))
  rw [List.map_map] at names
  rw [fieldSnapshots_eq_map, List.map_map]
  exact names

mutual

/-- The picture of a reordered value is the reordered picture. -/
theorem snapshot_reorders {v v' : Value} (reorders : v.Reorders v')
    (names : v.EveryType RecordType.DistinctNames) : v.snapshot.Reorders v'.snapshot := by
  match v with
  | .present _ _ =>
    cases reorders with
    | present target =>
      rw [EveryType] at names
      rw [snapshot, snapshot]
      exact .pointer (snapshot_reorders target names)
  | .boxed _ =>
    cases reorders with
    | boxed target =>
      rw [EveryType] at names
      rw [snapshot, snapshot]
      exact .pointer (snapshot_reorders target names)
  | .seq _ =>
    cases reorders with
    | seq items =>
      rw [EveryType] at names
      rw [snapshot, snapshot]
      exact .seq (snapshots_reorders items names)
  | .map _ =>
    cases reorders with
    | map entries =>
      rw [EveryType] at names
      rw [snapshot, snapshot]
      exact .map (entrySnapshots_reorders entries names)
  | .record type _ =>
    cases reorders with
    | record inside rearranged =>
      rw [EveryType] at names
      rw [snapshot, snapshot]
      refine .record (fieldSnapshots_reorders type.fields inside names.2) ?_ ?_
      · rw [fieldSnapshots_eq_map, fieldSnapshots_eq_map]
        exact rearranged.perm.map fieldSnapshot
      · rw [names_fieldSnapshots rearranged.length]
        exact names.1
  | .entry _ _ =>
    cases reorders with
    | entry key value =>
      rw [EveryType] at names
      rw [snapshot, snapshot]
      exact .entry (snapshot_reorders key names.1) (snapshot_reorders value names.2)
  | .bool _ | .integer _ _ | .single _ | .double _ | .text _ | .fixedText _ | .json _
  | .absent _ =>
    cases reorders
    exact .refl _

theorem snapshots_reorders {vs vs' : List Value} (reorders : ReordersIn vs vs')
    (names : EveryTypeIn RecordType.DistinctNames vs) :
    Snapshot.ReordersIn (snapshots vs) (snapshots vs') := by
  match vs with
  | [] =>
    cases reorders
    exact .nil
  | _ :: _ =>
    cases reorders with
    | cons first rest =>
      rw [EveryTypeIn] at names
      rw [snapshots, snapshots]
      exact .cons (snapshot_reorders first names.1) (snapshots_reorders rest names.2)

theorem entrySnapshots_reorders {entries entries' : List (Value × Value)}
    (reorders : ReordersOf entries entries')
    (names : EveryTypeOf RecordType.DistinctNames entries) :
    Snapshot.ReordersOf (entrySnapshots entries) (entrySnapshots entries') := by
  match entries with
  | [] =>
    cases reorders
    exact .nil
  | (_, _) :: _ =>
    cases reorders with
    | cons key value rest =>
      rw [EveryTypeOf] at names
      rw [entrySnapshots, entrySnapshots]
      exact .cons (snapshot_reorders key names.1) (snapshot_reorders value names.2.1)
        (entrySnapshots_reorders rest names.2.2)

theorem fieldSnapshots_reorders (infos : List FieldInfo) {vs vs' : List Value}
    (reorders : ReordersIn vs vs') (names : EveryTypeIn RecordType.DistinctNames vs) :
    Snapshot.ReordersFields (fieldSnapshots infos vs) (fieldSnapshots infos vs') := by
  match infos, vs with
  | [], _ =>
    rw [fieldSnapshots, fieldSnapshots]
    · exact .nil
    · simp
    · simp
  | _ :: _, [] =>
    cases reorders
    exact .nil
  | info :: infos, _ :: _ =>
    cases reorders with
    | cons first rest =>
      rw [EveryTypeIn] at names
      rw [fieldSnapshots, fieldSnapshots]
      refine .cons info.name ?_ (fieldSnapshots_reorders infos rest names.2)
      split
      · exact .refl _
      · exact snapshot_reorders first names.1

end

/-- Values that differ in the order of fields have the same own check, if it addresses the fields by
their names. -/
theorem selfCheck_eq_of_reorders {v v' : Value} (reorders : v.Reorders v')
    (names : v.EveryType RecordType.DistinctNames)
    (byName : v.EveryType fun type => ∀ check, type.selfCheck = some check →
      Snapshot.ByName check) :
    v.selfCheck = v'.selfCheck := by
  have picture := snapshot_reorders reorders names
  cases reorders with
  | @record type _ _ _ _ inside rearranged =>
    rw [EveryType] at byName
    rw [selfCheck, selfCheck]
    cases own : type.selfCheck with
    | none => rfl
    | some check => exact byName.1 check own _ _ picture
  | bool _ | integer _ _ | single _ | double _ | text _ | fixedText _ | json _ | absent _ _
  | present _ | boxed _ | seq _ | map _ | entry _ _ => rfl

end Value

/-! ## Fields in order -/

namespace Snapshot

theorem number?_eq_of_reorders {picture picture' : Snapshot}
    (reorders : picture.Reorders picture') : picture.number? = picture'.number? := by
  cases reorders with
  | pointer target =>
    have inside := number?_eq_of_reorders target
    rwa [number?, number?] at inside ⊢
  | refl _ | record _ _ _ | seq _ | map _ | entry _ _ => rfl

theorem bind_find?_eq_of_reordersFields {fields fields' : List (String × Snapshot)}
    (reorders : ReordersFields fields fields') (name : String) :
    ((fields.find? fun f => f.1 = name).map Prod.snd).bind number? =
      ((fields'.find? fun f => f.1 = name).map Prod.snd).bind number? := by
  induction fields generalizing fields' with
  | nil =>
    cases reorders
    rfl
  | cons f fields ih =>
    cases reorders with
    | cons name' picture rest =>
      by_cases same : name' = name
      · simp [same, number?_eq_of_reorders picture]
      · simpa [same] using ih rest

/-- The number in a field is found wherever the field is. -/
theorem bind_field?_eq_of_reorders {picture picture' : Snapshot}
    (reorders : picture.Reorders picture') (name : String) :
    (picture.field? name).bind number? = (picture'.field? name).bind number? := by
  cases reorders with
  | record inside perm nodup =>
    rw [field?, field?, bind_find?_eq_of_reordersFields inside name,
      List.find?_eq_find?_of_perm perm]
    intro f mem f' mem'
    have one : f.1 = name := by simpa using mem.2
    have other : f'.1 = name := by simpa using mem'.2
    exact List.inj_on_of_nodup_map nodup mem.1 mem'.1 (one.trans other.symm)
  | refl _ | seq _ | map _ | pointer _ | entry _ _ => rfl

/-- The check that one field is not above another addresses both by their names. -/
theorem byName_ordered (low high : String) : ByName (ordered low high) := by
  intro picture picture' reorders
  rw [ordered, ordered, bind_field?_eq_of_reorders reorders low,
    bind_field?_eq_of_reorders reorders high]

end Snapshot

end RecordRules

import RecordRules.Check.Validator
import RecordRules.Engine.Walk

/-!
# Values without annotations

A value knows the annotations of the fields in it.  Taking them away leaves everything
else that can be seen of the value: its scalars, its lengths, its texts and its picture.
-/

namespace RecordRules

/-- The field without its annotation. -/
def FieldInfo.bare (info : FieldInfo) : FieldInfo :=
  { info with tag := "" }

/-- The structure type without the annotations of its fields. -/
def RecordType.bare (type : RecordType) : RecordType :=
  { type with fields := type.fields.map FieldInfo.bare }

namespace Shape

mutual

/-- The shape without annotations. -/
def bare : Shape → Shape
  | option content => option content.bare
  | box content => box content.bare
  | seq item => seq item.bare
  | array length item => array length item.bare
  | map key value => map key.bare value.bare
  | record type fields => record type.bare (bares fields)
  | s => s

/-- The shapes without annotations. -/
def bares : List Shape → List Shape
  | [] => []
  | s :: rest => s.bare :: bares rest

end

end Shape

/-- What an optional value may hold, without annotations. -/
def Content.bare (c : Content) : Content where
  shape := c.shape.bare
  types := c.types.map fun named => (named.1, named.2.bare)

namespace Value

mutual

/-- The value without annotations. -/
def bare : Value → Value
  | absent content => absent content.bare
  | present content target => present content.bare target.bare
  | boxed target => boxed target.bare
  | seq items => seq (bares items)
  | map entries => map (bareEntries entries)
  | record type fields => record type.bare (bares fields)
  | entry key value => entry key.bare value.bare
  | v => v

/-- The values without annotations. -/
def bares : List Value → List Value
  | [] => []
  | v :: vs => v.bare :: bares vs

/-- The entries of a map without annotations. -/
def bareEntries : List (Value × Value) → List (Value × Value)
  | [] => []
  | (key, value) :: entries => (key.bare, value.bare) :: bareEntries entries

end

theorem length_bares (vs : List Value) : (bares vs).length = vs.length := by
  induction vs with
  | nil => rfl
  | cons v vs ih => rw [bares, List.length_cons, List.length_cons, ih]

theorem length_bareEntries (entries : List (Value × Value)) :
    (bareEntries entries).length = entries.length := by
  induction entries with
  | nil => rfl
  | cons e entries ih => rw [bareEntries, List.length_cons, List.length_cons, ih]

theorem indirect_bare (v : Value) : v.bare.indirect = v.indirect.bare := by
  match v with
  | present _ target =>
    rw [bare, indirect, indirect]
    exact indirect_bare target
  | boxed target =>
    rw [bare, indirect, indirect]
    exact indirect_bare target
  | bool _ | integer _ _ | single _ | double _ | text _ | fixedText _ | json _ | absent _ | seq _
  | map _ | record _ _ | entry _ _ => rfl

/-! ## What is seen of a value -/

@[simp] theorem kind_bare (v : Value) : v.bare.kind = v.kind := by
  cases v <;> rfl

@[simp] theorem length?_bare (v : Value) : v.bare.length? = v.length? := by
  rw [length?, length?, indirect_bare]
  cases v.indirect with
  | seq items => exact congrArg some (length_bares items)
  | map entries => exact congrArg some (length_bareEntries entries)
  | bool _ | integer _ _ | single _ | double _ | text _ | fixedText _ | json _ | absent _
  | present _ _ | boxed _ | record _ _ | entry _ _ => rfl

@[simp] theorem number?_bare (v : Value) : v.bare.number? = v.number? := by
  rw [number?, number?, indirect_bare]
  cases v.indirect <;> rfl

@[simp] theorem string?_bare (v : Value) : v.bare.string? = v.string? := by
  rw [string?, string?, indirect_bare]
  cases v.indirect <;> rfl

@[simp] theorem literal?_bare (v : Value) : v.bare.literal? = v.literal? := by
  rw [literal?, literal?, indirect_bare]
  cases v.indirect <;> rfl

mutual

@[simp] theorem isZero_bare (v : Value) : v.bare.isZero = v.isZero := by
  match v with
  | record type fields =>
    rw [bare, isZero, isZero]
    exact areZero_bare type.fields fields
  | seq [] | seq (_ :: _) | map [] | map (_ :: _) => rfl
  | bool _ | integer _ _ | single _ | double _ | text _ | fixedText _ | json _ | absent _
  | present _ _ | boxed _ | entry _ _ => rfl

theorem areZero_bare (infos : List FieldInfo) (vs : List Value) :
    areZero (infos.map FieldInfo.bare) (bares vs) = areZero infos vs := by
  match infos, vs with
  | info :: infos, v :: vs =>
    rw [List.map_cons, bares, areZero, areZero, isZero_bare v, areZero_bare infos vs]
    rfl
  | [], _ => simp [areZero]
  | _ :: _, [] => rfl

end

theorem describe_bare (v : Value) : v.bare.describe = v.describe := by
  match v with
  | present _ target => rw [bare, describe, describe, describe_bare target]
  | boxed target => rw [bare, describe, describe, describe_bare target]
  | entry key value => rw [bare, describe, describe, describe_bare key, describe_bare value]
  | seq items => simp [bare, describe, view, length_bares]
  | map entries => simp [bare, describe, view, length_bareEntries]
  | record _ _ => rfl
  | bool _ | integer _ _ | single _ | double _ | text _ | fixedText _ | json _ | absent _ => rfl

theorem keyText_bare (v : Value) : Validator.keyText v.bare = Validator.keyText v := by
  rw [Validator.keyText, Validator.keyText, literal?_bare, describe_bare]

/-! ## Pictures -/

mutual

@[simp] theorem snapshot_bare (v : Value) : v.bare.snapshot = v.snapshot := by
  match v with
  | present _ target => rw [bare, snapshot, snapshot, snapshot_bare target]
  | boxed target => rw [bare, snapshot, snapshot, snapshot_bare target]
  | seq items => rw [bare, snapshot, snapshot, snapshots_bare items]
  | map entries => rw [bare, snapshot, snapshot, entrySnapshots_bare entries]
  | record type fields =>
    rw [bare, snapshot, snapshot]
    exact congrArg (Snapshot.record type.name) (fieldSnapshots_bare type.fields fields)
  | entry key value => rw [bare, snapshot, snapshot, snapshot_bare key, snapshot_bare value]
  | bool _ | integer _ _ | single _ | double _ | text _ | fixedText _ | json _ | absent _ => rfl

theorem snapshots_bare (vs : List Value) : snapshots (bares vs) = snapshots vs := by
  match vs with
  | [] => rfl
  | v :: vs => rw [bares, snapshots, snapshots, snapshot_bare v, snapshots_bare vs]

theorem entrySnapshots_bare (entries : List (Value × Value)) :
    entrySnapshots (bareEntries entries) = entrySnapshots entries := by
  match entries with
  | [] => rfl
  | (key, value) :: entries =>
    rw [bareEntries, entrySnapshots, entrySnapshots, snapshot_bare key, snapshot_bare value,
      entrySnapshots_bare entries]

theorem fieldSnapshots_bare (infos : List FieldInfo) (vs : List Value) :
    fieldSnapshots (infos.map FieldInfo.bare) (bares vs) = fieldSnapshots infos vs := by
  match infos, vs with
  | info :: infos, v :: vs =>
    rw [List.map_cons, bares, fieldSnapshots, fieldSnapshots, snapshot_bare v,
      fieldSnapshots_bare infos vs]
    rfl
  | [], _ => simp [fieldSnapshots]
  | _ :: _, [] => rfl

end

/-- The check that a structure makes of itself does not see annotations. -/
@[simp] theorem selfCheck_bare (v : Value) : v.bare.selfCheck = v.selfCheck := by
  cases v with
  | record type fields =>
    have picture := snapshot_bare (record type fields)
    rw [bare] at picture ⊢
    rw [selfCheck, selfCheck, picture]
    rfl
  | bool _ | integer _ _ | single _ | double _ | text _ | fixedText _ | json _ | absent _
  | present _ _ | boxed _ | seq _ | map _ | entry _ _ => rfl

end Value

end RecordRules

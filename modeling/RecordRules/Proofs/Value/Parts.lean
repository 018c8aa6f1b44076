import RecordRules.Engine.Walk
import RecordRules.Proofs.Check.Running

/-!
# Parts of values

Validators look at the elements of sequences and at the keys, values and entries of maps.
Whatever is true of a value and of its parts is true of all values that a validator gets
to, and these do not nest deeper than the value itself.

An entry of a map is made for the check that looks at it.  It has no parts of its own, so
it weighs nothing.
-/

namespace RecordRules

namespace Value

/-! ## Depth -/

theorem depth_indirect_le (v : Value) : v.indirect.depth ≤ v.depth := by
  match v with
  | present _ target =>
    rw [indirect, depth]
    exact Nat.le_succ_of_le (depth_indirect_le target)
  | boxed target =>
    rw [indirect, depth]
    exact Nat.le_succ_of_le (depth_indirect_le target)
  | bool _ | integer _ _ | single _ | double _ | text _ | fixedText _ | json _ | absent _
  | seq _ | map _ | record _ _ | entry _ _ => exact Nat.le_refl _

theorem indirect_idem (v : Value) : v.indirect.indirect = v.indirect := by
  match v with
  | present _ target =>
    rw [indirect]
    exact indirect_idem target
  | boxed target =>
    rw [indirect]
    exact indirect_idem target
  | bool _ | integer _ _ | single _ | double _ | text _ | fixedText _ | json _ | absent _
  | seq _ | map _ | record _ _ | entry _ _ => rfl

theorem depth_le_greatestDepth {v : Value} {vs : List Value} (mem : v ∈ vs) :
    v.depth ≤ greatestDepth vs := by
  induction vs with
  | nil => cases mem
  | cons u vs ih =>
    rw [greatestDepth]
    rcases List.mem_cons.mp mem with rfl | mem
    · exact Nat.le_max_left _ _
    · have rest := ih mem
      omega

theorem depth_le_greatestEntryDepth {e : Value × Value} {entries : List (Value × Value)}
    (mem : e ∈ entries) : max e.1.depth e.2.depth ≤ greatestEntryDepth entries := by
  induction entries with
  | nil => cases mem
  | cons f entries ih =>
    rw [greatestEntryDepth]
    rcases List.mem_cons.mp mem with rfl | mem
    · exact Nat.le_max_left _ _
    · have rest := ih mem
      omega

/-- How deep a value nests; entries of maps do not count. -/
def weight : Value → Nat
  | entry _ _ => 0
  | v => v.depth

theorem weight_le_depth (v : Value) : v.weight ≤ v.depth := by
  cases v with
  | entry _ _ => exact Nat.zero_le _
  | bool _ | integer _ _ | single _ | double _ | text _ | fixedText _ | json _ | absent _
  | present _ _ | boxed _ | seq _ | map _ | record _ _ => exact Nat.le_refl _

/-- A structure behind pointers nests no deeper than the pointers. -/
theorem depth_le_weight {v : Value} {type : RecordType} {fields : List Value}
    (leads : v.indirect = record type fields) : (record type fields).depth ≤ v.weight := by
  cases v with
  | entry _ _ => cases leads
  | bool _ | integer _ _ | single _ | double _ | text _ | fixedText _ | json _ | absent _
  | present _ _ | boxed _ | seq _ | map _ | record _ _ => rw [← leads]; exact depth_indirect_le _

/-- Behind its pointers, a value is a structure or it is none. -/
theorem record_or_other (v : Value) :
    (∃ type fields, v.indirect = record type fields) ∨
      ∀ type fields, v.indirect ≠ record type fields := by
  by_cases structured : ∃ type fields, v.indirect = record type fields
  · exact .inl structured
  · refine .inr fun type fields leads => ?_
    exact structured ⟨type, fields, leads⟩

theorem weight_pos {v : Value} {type : RecordType} {fields : List Value}
    (leads : v.indirect = record type fields) : 0 < v.weight := by
  have deep := depth_le_weight leads
  rw [depth] at deep
  omega

/-! ## Parts -/

/-- The values that a validator may get to from a value in one step. -/
def parts (v : Value) : List Value :=
  match v.indirect.view with
  | .seq items => items
  | .map entries => entries.flatMap fun e => [e.1, e.2, .entry e.1 e.2]
  | _ => []

theorem target_mem_parts {entries : List (Value × Value)} {e : Value × Value} (mem : e ∈ entries)
    (part : MapPart) : part.target e ∈ entries.flatMap fun e => [e.1, e.2, entry e.1 e.2] := by
  refine List.mem_flatMap.mpr ⟨e, mem, ?_⟩
  cases part <;> simp [MapPart.target]

/-- What parts inherit holds all along when a validator is run. -/
theorem partsRelated_of_closed {P : Value → Prop} (closed : ∀ v, P v → ∀ u ∈ v.parts, P u) :
    Validator.PartsRelated fun v v' => v = v' ∧ P v := by
  rintro v _ ⟨rfl, holds⟩
  have inherit := closed v holds
  rw [parts] at inherit
  generalize v.indirect.view = view at inherit ⊢
  cases view with
  | seq items =>
    refine .seq (List.forall₂_same.mpr fun u mem => ⟨rfl, inherit u mem⟩)
  | map entries =>
    refine .map (List.forall₂_same.mpr fun e mem => ⟨rfl, fun part => ⟨rfl, ?_⟩⟩)
    exact inherit _ (target_mem_parts mem part)
  | null | bool _ | int _ | uint _ | float _ | str _ | record _ _ | pointer _ | entry _ _ =>
    exact .other rfl (by simp [View.kind]) (by simp [View.kind])

theorem mem_partsOf {entries : List (Value × Value)} {u : Value}
    (mem : u ∈ entries.flatMap fun e => [e.1, e.2, entry e.1 e.2]) :
    ∃ e ∈ entries, u = e.1 ∨ u = e.2 ∨ u = entry e.1 e.2 := by
  obtain ⟨e, member, is⟩ := List.mem_flatMap.mp mem
  simp only [List.mem_cons, List.not_mem_nil, or_false] at is
  exact ⟨e, member, is⟩

/-- Where a part comes from: a sequence, a map or a document. -/
theorem cases_of_mem_parts {v u : Value} (mem : u ∈ v.parts) :
    (∃ items, v.indirect = seq items ∧ u ∈ items) ∨
    (∃ entries, v.indirect = map entries ∧
      ∃ e ∈ entries, u = e.1 ∨ u = e.2 ∨ u = entry e.1 e.2) ∨
    (∃ j, u = json j) ∨ (∃ name, u = text name) ∨ ∃ name j, u = entry (text name) (json j) := by
  rw [parts] at mem
  generalize v.indirect = w at mem ⊢
  cases w with
  | seq items => exact .inl ⟨items, rfl, mem⟩
  | map entries => exact .inr (.inl ⟨entries, rfl, mem_partsOf mem⟩)
  | json j =>
    refine .inr (.inr ?_)
    cases j with
    | array items =>
      obtain ⟨item, -, rfl⟩ := List.mem_map.mp mem
      exact .inl ⟨item, rfl⟩
    | object members =>
      obtain ⟨e, member, is⟩ := mem_partsOf mem
      obtain ⟨m, -, rfl⟩ := List.mem_map.mp member
      rcases is with rfl | rfl | rfl
      · exact .inr (.inl ⟨m.1, rfl⟩)
      · exact .inl ⟨m.2, rfl⟩
      · exact .inr (.inr ⟨m.1, m.2, rfl⟩)
    | integer n =>
      by_cases holds : IntType.int64.Holds n.val
      · simp [view, View.ofJson, holds] at mem
      · simp [view, View.ofJson, holds] at mem
    | null | bool _ | float _ | string _ => exact absurd mem List.not_mem_nil
  | integer type n =>
    by_cases signed : type.signed = true
    · simp [view, View.ofInteger, signed] at mem
    · simp [view, View.ofInteger, signed] at mem
  | bool _ | single _ | double _ | text _ | fixedText _ | absent _ | present _ _ | boxed _
  | record _ _ | entry _ _ => exact absurd mem List.not_mem_nil

theorem weight_indirect_le (v : Value) : v.indirect.weight ≤ v.weight := by
  cases v with
  | entry _ _ => exact Nat.le_refl _
  | bool _ | integer _ _ | single _ | double _ | text _ | fixedText _ | json _ | absent _
  | present _ _ | boxed _ | seq _ | map _ | record _ _ =>
    exact Nat.le_trans (weight_le_depth _) (depth_indirect_le _)

/-- Parts nest no deeper than the value that they are parts of. -/
theorem weight_parts {v : Value} : ∀ u ∈ v.parts, u.weight ≤ v.weight := by
  intro u mem
  have inner := weight_indirect_le v
  rcases cases_of_mem_parts mem with ⟨items, is, member⟩ | ⟨entries, is, e, member, part⟩ | json
  · have bound := depth_le_greatestDepth member
    have light := weight_le_depth u
    have weight : (seq items).weight = greatestDepth items + 1 := rfl
    rw [is, weight] at inner
    omega
  · have bound := depth_le_greatestEntryDepth member
    have weight : (map entries).weight = greatestEntryDepth entries + 1 := rfl
    rw [is, weight] at inner
    rcases part with rfl | rfl | rfl
    · have light := weight_le_depth e.1
      omega
    · have light := weight_le_depth e.2
      omega
    · exact Nat.zero_le _
  · rcases json with ⟨_, rfl⟩ | ⟨_, rfl⟩ | ⟨_, _, rfl⟩ <;> exact Nat.zero_le _

/-! ## Structures inside -/

mutual

/-- Every structure type in a value has a property. -/
def EveryType (p : RecordType → Prop) : Value → Prop
  | present _ target => target.EveryType p
  | boxed target => target.EveryType p
  | seq items => EveryTypeIn p items
  | map entries => EveryTypeOf p entries
  | record type fields => p type ∧ EveryTypeIn p fields
  | entry key value => key.EveryType p ∧ value.EveryType p
  | _ => True

/-- Every structure type in the values has a property. -/
def EveryTypeIn (p : RecordType → Prop) : List Value → Prop
  | [] => True
  | v :: vs => v.EveryType p ∧ EveryTypeIn p vs

/-- Every structure type in the entries has a property. -/
def EveryTypeOf (p : RecordType → Prop) : List (Value × Value) → Prop
  | [] => True
  | (key, value) :: entries => key.EveryType p ∧ value.EveryType p ∧ EveryTypeOf p entries

end

theorem everyTypeIn_iff {p : RecordType → Prop} {vs : List Value} :
    EveryTypeIn p vs ↔ ∀ v ∈ vs, v.EveryType p := by
  induction vs with
  | nil => simp [EveryTypeIn]
  | cons v vs ih => rw [EveryTypeIn, ih, List.forall_mem_cons]

theorem everyTypeOf_iff {p : RecordType → Prop} {entries : List (Value × Value)} :
    EveryTypeOf p entries ↔ ∀ e ∈ entries, e.1.EveryType p ∧ e.2.EveryType p := by
  induction entries with
  | nil => simp [EveryTypeOf]
  | cons e entries ih =>
    obtain ⟨key, value⟩ := e
    rw [EveryTypeOf, ih, List.forall_mem_cons, and_assoc]

/-- In a value without depth there is no structure. -/
theorem everyType_of_depth {p : RecordType → Prop} {v : Value} (flat : v.depth = 0) :
    v.EveryType p := by
  cases v with
  | present _ _ | boxed _ | seq _ | map _ | record _ _ | entry _ _ => simp [depth] at flat
  | bool _ | integer _ _ | single _ | double _ | text _ | fixedText _ | json _ | absent _ =>
    simp [EveryType]

mutual

theorem everyType_mono {p q : RecordType → Prop} (weaker : ∀ type, p type → q type) {v : Value}
    (every : v.EveryType p) : v.EveryType q := by
  match v with
  | present _ target =>
    rw [EveryType] at every ⊢
    exact everyType_mono weaker every
  | boxed target =>
    rw [EveryType] at every ⊢
    exact everyType_mono weaker every
  | seq items =>
    rw [EveryType] at every ⊢
    exact everyTypeIn_mono weaker every
  | map entries =>
    rw [EveryType] at every ⊢
    exact everyTypeOf_mono weaker every
  | record type fields =>
    rw [EveryType] at every ⊢
    exact ⟨weaker type every.1, everyTypeIn_mono weaker every.2⟩
  | entry key value =>
    rw [EveryType] at every ⊢
    exact ⟨everyType_mono weaker every.1, everyType_mono weaker every.2⟩
  | bool _ | integer _ _ | single _ | double _ | text _ | fixedText _ | json _ | absent _ =>
    simp [EveryType]

theorem everyTypeIn_mono {p q : RecordType → Prop} (weaker : ∀ type, p type → q type)
    {vs : List Value} (every : EveryTypeIn p vs) : EveryTypeIn q vs := by
  match vs with
  | [] => simp [EveryTypeIn]
  | v :: vs =>
    rw [EveryTypeIn] at every ⊢
    exact ⟨everyType_mono weaker every.1, everyTypeIn_mono weaker every.2⟩

theorem everyTypeOf_mono {p q : RecordType → Prop} (weaker : ∀ type, p type → q type)
    {entries : List (Value × Value)} (every : EveryTypeOf p entries) : EveryTypeOf q entries := by
  match entries with
  | [] => simp [EveryTypeOf]
  | (key, value) :: entries =>
    rw [EveryTypeOf] at every ⊢
    obtain ⟨first, second, rest⟩ := every
    exact ⟨everyType_mono weaker first, everyType_mono weaker second,
      everyTypeOf_mono weaker rest⟩

end

theorem everyType_indirect {p : RecordType → Prop} :
    (v : Value) → v.EveryType p → v.indirect.EveryType p
  | present _ target, every => everyType_indirect target (by rwa [EveryType] at every)
  | boxed target, every => everyType_indirect target (by rwa [EveryType] at every)
  | bool _, every | integer _ _, every | single _, every | double _, every | text _, every
  | fixedText _, every | json _, every | absent _, every | seq _, every | map _, every
  | record _ _, every | entry _ _, every => every

/-- Parts inherit what is true of all structure types. -/
theorem everyType_parts {p : RecordType → Prop} {v : Value} (every : v.EveryType p) :
    ∀ u ∈ v.parts, u.EveryType p := by
  intro u mem
  have inner := everyType_indirect v every
  rcases cases_of_mem_parts mem with ⟨items, is, member⟩ | ⟨entries, is, e, member, part⟩ | json
  · rw [is, EveryType, everyTypeIn_iff] at inner
    exact inner u member
  · rw [is, EveryType, everyTypeOf_iff] at inner
    have both := inner e member
    rcases part with rfl | rfl | rfl
    · exact both.1
    · exact both.2
    · rw [EveryType]
      exact both
  · rcases json with ⟨_, rfl⟩ | ⟨_, rfl⟩ | ⟨_, _, rfl⟩ <;> simp [EveryType]

end Value

end RecordRules

import Mathlib.Data.List.Infix
import RecordRules.Proofs.Value.Parts
import RecordRules.Value.Locate

/-!
# Reading and changing at a place

`Value.resolve` and `Value.update` go the same way through a value without holes: they get
to the same place, what is put there is read there afterwards, and nothing else has
changed.

One step comes first: `Leads` says what a step can do, and `Value.replace` puts a value
where a step leads.  Only documents need care, because what is inside a document has to
stay one.
-/

namespace RecordRules

namespace Value

/-- No field of a structure in the value is a hole. -/
def WithoutHoles (v : Value) : Prop :=
  v.EveryType fun type => ∀ info ∈ type.fields, info.access = .full

/-! ## One step -/

/-- A step leads from a value to a value inside it. -/
inductive Leads : Step → Value → Value → Prop
  | field {type : RecordType} {fields : List Value} {index : Nat} {info : FieldInfo} {u : Value} :
    type.fields[index]? = some info → info.access ≠ .hidden → fields[index]? = some u →
    Leads (.field index) (record type fields) u
  | item {items : List Value} {index : Nat} {u : Value} :
    items[index]? = some u → Leads (.index index) (seq items) u
  | document {items : List Json} {index : Nat} {j : Json} :
    items[index]? = some j → Leads (.index index) (json (.array items)) (json j)
  | target {content : Content} {u : Value} : Leads .deref (present content u) u
  | boxed {u : Value} : Leads .deref (boxed u) u

theorem fieldAt_eq_some_iff {type : RecordType} {fields : List Value} {index : Nat} {u : Value} :
    fieldAt type fields index = some u ↔
      ∃ info, type.fields[index]? = some info ∧ info.access ≠ .hidden ∧
        fields[index]? = some u := by
  rw [fieldAt]
  cases type.fields[index]? with
  | none => simp
  | some info => simp

theorem follow_of_leads {step : Step} {v u : Value} (leads : Leads step v u) :
    v.follow step = some u := by
  cases leads with
  | field is shown found => exact fieldAt_eq_some_iff.mpr ⟨_, is, shown, found⟩
  | item found => exact found
  | document found =>
    change (List.map json _)[_]? = _
    rw [List.getElem?_map, found, Option.map_some]
  | target => rfl
  | boxed => rfl

theorem leads_unique {step : Step} {v u u' : Value} (leads : Leads step v u)
    (leads' : Leads step v u') : u = u' :=
  Option.some.inj ((follow_of_leads leads).symm.trans (follow_of_leads leads'))

theorem follow_integer (type : IntType) (n : type.Number) (step : Step) :
    (integer type n).follow step = none := by
  unfold follow
  by_cases signed : type.signed = true
  · have viewed : (integer type n).view = .int (Int64.ofInt n.val) := if_pos signed
    rw [viewed]
    cases step <;> rfl
  · have viewed : (integer type n).view = .uint (UInt64.ofNat n.val.toNat) := if_neg signed
    rw [viewed]
    cases step <;> rfl

theorem follow_json_integer (n : JsonInteger) (step : Step) :
    (json (.integer n)).follow step = none := by
  unfold follow
  by_cases narrow : IntType.int64.Holds n.val
  · have viewed : (json (.integer n)).view = .int (Int64.ofInt n.val) := if_pos narrow
    rw [viewed]
    cases step <;> rfl
  · have viewed : (json (.integer n)).view = .uint (UInt64.ofNat n.val.toNat) := if_neg narrow
    rw [viewed]
    cases step <;> rfl

/-- What a step can lead from: structures, sequences, documents and pointers. -/
theorem leads_of_follow {step : Step} {v u : Value} (follows : v.follow step = some u) :
    Leads step v u := by
  cases v with
  | record type fields =>
    cases step with
    | field index =>
      obtain ⟨info, is, shown, found⟩ := fieldAt_eq_some_iff.mp follows
      exact .field is shown found
    | index _ | deref => cases follows
  | seq items =>
    cases step with
    | index index => exact .item follows
    | field _ | deref => cases follows
  | json j =>
    cases j with
    | array items =>
      cases step with
      | index index =>
        change (items.map json)[index]? = some u at follows
        rw [List.getElem?_map] at follows
        obtain ⟨item, found, rfl⟩ := Option.map_eq_some_iff.mp follows
        exact .document found
      | field _ | deref => cases follows
    | integer n =>
      rw [follow_json_integer] at follows
      cases follows
    | null | bool _ | float _ | string _ | object _ => cases step <;> cases follows
  | integer type n =>
    rw [follow_integer] at follows
    cases follows
  | present content target =>
    cases step with
    | deref =>
      cases follows
      exact .target
    | field _ | index _ => cases follows
  | boxed target =>
    cases step with
    | deref =>
      cases follows
      exact .boxed
    | field _ | index _ => cases follows
  | bool _ | single _ | double _ | text _ | fixedText _ | absent _ | map _ | entry _ _ =>
    cases step <;> cases follows

/-- What is true of all structure types in a value is true of those behind a step. -/
theorem everyType_of_leads {p : RecordType → Prop} {step : Step} {v u : Value}
    (leads : Leads step v u) (every : v.EveryType p) : u.EveryType p := by
  cases leads with
  | field _ _ found =>
    rw [EveryType] at every
    exact everyTypeIn_iff.mp every.2 u (List.mem_of_getElem? found)
  | item found =>
    rw [EveryType] at every
    exact everyTypeIn_iff.mp every u (List.mem_of_getElem? found)
  | document _ => simp [EveryType]
  | target | boxed =>
    rw [EveryType] at every
    exact every

/-- What is true of all structure types in a value is true of those that steps lead to. -/
theorem everyType_of_resolve {p : RecordType → Prop} {steps : List Step} {v u : Value}
    (leads : v.resolve steps = some u) (every : v.EveryType p) : u.EveryType p := by
  induction steps generalizing v with
  | nil => exact Option.some.inj leads ▸ every
  | cons step steps ih =>
    rw [resolve] at leads
    obtain ⟨t, follows, rest⟩ := Option.bind_eq_some_iff.mp leads
    exact ih rest (everyType_of_leads (leads_of_follow follows) every)

theorem everyTypeIn_set {p : RecordType → Prop} {vs : List Value} (every : EveryTypeIn p vs)
    {u : Value} (new : u.EveryType p) (index : Nat) : EveryTypeIn p (vs.set index u) := by
  rw [everyTypeIn_iff] at every ⊢
  intro v mem
  rcases List.mem_or_eq_of_mem_set mem with old | rfl
  · exact every v old
  · exact new

theorem withoutHoles_of_leads {step : Step} {v u : Value} (leads : Leads step v u)
    (wide : v.WithoutHoles) : u.WithoutHoles :=
  everyType_of_leads leads wide

/-- Only a structure looks like one. -/
theorem eq_record_of_view {v : Value} {type : RecordType} {fields : List Value}
    (looks : v.view = .record type fields) : v = record type fields := by
  cases v with
  | record _ _ =>
    cases looks
    rfl
  | integer t n =>
    rw [view, View.ofInteger] at looks
    split at looks <;> cases looks
  | json j =>
    cases j with
    | integer n =>
      rw [view, View.ofJson] at looks
      split at looks <;> cases looks
    | null | bool _ | float _ | string _ | array _ | object _ => cases looks
  | bool _ | single _ | double _ | text _ | fixedText _ | absent _ | present _ _ | boxed _ | seq _
  | map _ | entry _ _ => cases looks

/-- The value with another one where a step leads.  A document takes in documents only. -/
def replace (v : Value) (step : Step) (u : Value) : Value :=
  match step, v, u with
  | .field index, record type fields, u => record type (fields.set index u)
  | .index index, seq items, u => seq (items.set index u)
  | .index index, json (.array items), json item => json (.array (items.set index item))
  | .deref, present content _, u => present content u
  | .deref, boxed _, u => boxed u
  | _, v, _ => v

/-- What is put in brings its own structure types, and the others stay. -/
theorem everyType_replace {p : RecordType → Prop} {step : Step} {v u u' : Value}
    (leads : Leads step v u) (every : v.EveryType p) (new : u'.EveryType p) :
    (v.replace step u').EveryType p := by
  cases leads with
  | field is _ _ =>
    rw [EveryType] at every
    rw [replace, EveryType]
    exact ⟨every.1, everyTypeIn_set every.2 new _⟩
  | item _ =>
    rw [EveryType] at every
    rw [replace, EveryType]
    exact everyTypeIn_set every new _
  | document _ => cases u' <;> simp [replace, EveryType]
  | target =>
    rw [replace, EveryType]
    exact new
  | boxed =>
    rw [replace, EveryType]
    exact new

theorem replace_self {step : Step} {v u : Value} (leads : Leads step v u) :
    v.replace step u = v := by
  cases leads with
  | field _ _ found | item found | document found =>
    obtain ⟨inside, rfl⟩ := List.getElem?_eq_some_iff.mp found
    rw [replace, List.set_getElem_self inside]
  | target | boxed => rfl

/-- What may stand in the place of a value: for a document, documents only. -/
def Replaces (v u : Value) : Prop :=
  ∀ j, v = json j → ∃ i, u = json i

/-- What was put where a step leads is there. -/
theorem leads_replace {step : Step} {v u u' : Value} (leads : Leads step v u)
    (replaces : u.Replaces u') : Leads step (v.replace step u') u' := by
  cases leads with
  | field is shown found =>
    obtain ⟨inside, -⟩ := List.getElem?_eq_some_iff.mp found
    exact .field is shown (List.getElem?_set_self inside)
  | item found =>
    obtain ⟨inside, -⟩ := List.getElem?_eq_some_iff.mp found
    exact .item (List.getElem?_set_self inside)
  | document found =>
    obtain ⟨inside, -⟩ := List.getElem?_eq_some_iff.mp found
    obtain ⟨j, rfl⟩ := replaces _ rfl
    exact .document (List.getElem?_set_self inside)
  | target => exact .target
  | boxed => exact .boxed

/-- Other steps lead where they led before. -/
theorem follow_replace_of_ne {step other : Step} {v u : Value} (leads : Leads step v u)
    (ne : other ≠ step) (u' : Value) : (v.replace step u').follow other = v.follow other := by
  cases leads with
  | @field type fields index info u is shown found =>
    cases other with
    | field other =>
      have apart : index ≠ other := fun same => ne (congrArg Step.field same.symm)
      change fieldAt type (fields.set index u') other = fieldAt type fields other
      rw [fieldAt, fieldAt, List.getElem?_set_ne apart]
    | index _ | deref => rfl
  | @item items index u found =>
    cases other with
    | index other =>
      have apart : index ≠ other := fun same => ne (congrArg Step.index same.symm)
      exact List.getElem?_set_ne apart
    | field _ | deref => rfl
  | @document items index j found =>
    cases u' with
    | json i =>
      cases other with
      | index other =>
        have apart : index ≠ other := fun same => ne (congrArg Step.index same.symm)
        change ((items.set index i).map json)[other]? = (items.map json)[other]?
        rw [List.getElem?_map, List.getElem?_map, List.getElem?_set_ne apart]
      | field _ | deref => rfl
    | bool _ | integer _ _ | single _ | double _ | text _ | fixedText _ | absent _ | present _ _
    | boxed _ | seq _ | map _ | record _ _ | entry _ _ => rfl
  | target | boxed =>
    cases other with
    | deref => exact absurd rfl ne
    | field _ | index _ => rfl

/-- A document stays one when something in it is replaced. -/
theorem replaces_replace {step : Step} {v u : Value} (leads : Leads step v u) {u' : Value}
    (replaces : u.Replaces u') : v.Replaces (v.replace step u') := by
  rintro _ rfl
  cases leads with
  | document found =>
    obtain ⟨j, rfl⟩ := replaces _ rfl
    exact ⟨_, rfl⟩

/-! ## Several steps -/

theorem resolve_append (v : Value) (steps others : List Step) :
    v.resolve (steps ++ others) = (v.resolve steps).bind (resolve others) := by
  induction steps generalizing v with
  | nil => rfl
  | cons step steps ih =>
    rw [List.cons_append, resolve, resolve]
    cases v.follow step with
    | none => rfl
    | some u => exact ih u

theorem resolve_one (v : Value) (step : Step) : v.resolve [step] = v.follow step := by
  rw [resolve]
  cases v.follow step <;> rfl

theorem fieldAt_of_changeable {type : RecordType} {fields : List Value} {index : Nat}
    (full : ∀ info ∈ type.fields, info.access = .full) :
    fieldAt type fields index = if isChangeable type index then fields[index]? else none := by
  rw [fieldAt, isChangeable]
  cases is : type.fields[index]? with
  | none => rfl
  | some info =>
    have reachable := full info (List.mem_of_getElem? is)
    simp [reachable]

section update

variable {α : Type}

/-- A change behind a step is made where the step leads, and put back there. -/
theorem update_cons (change : Value → α × Value) (step : Step) (steps : List Step) {v : Value}
    (wide : v.WithoutHoles) :
    v.update change (step :: steps) =
      (v.follow step).bind fun u =>
        (u.update change steps).map fun (a, u) => (a, v.replace step u) := by
  cases v with
  | record type fields =>
    cases step with
    | field index =>
      rw [WithoutHoles, EveryType] at wide
      change _ = (fieldAt type fields index).bind _
      rw [fieldAt_of_changeable wide.1, update]
      split <;> rfl
    | index _ | deref => rfl
  | seq items =>
    cases step with
    | index _ => rfl
    | field _ | deref => rfl
  | json j =>
    cases j with
    | array items =>
      cases step with
      | index index =>
        change _ = ((items.map json)[index]?).bind _
        rw [List.getElem?_map, update]
        cases items[index]? with
        | none => rfl
        | some item =>
          dsimp only [Option.map_some, Option.bind_some]
          congr 1
          funext ⟨a, u⟩
          cases u <;> rfl
      | field _ | deref => rfl
    | integer n =>
      rw [follow_json_integer]
      cases step <;> rfl
    | null | bool _ | float _ | string _ | object _ => cases step <;> rfl
  | integer type n =>
    rw [follow_integer]
    cases step <;> rfl
  | present _ _ | boxed _ | bool _ | single _ | double _ | text _ | fixedText _ | absent _ | map _
  | entry _ _ => cases step <;> rfl

/-- Changes are made where reading gets to, and nowhere if it gets nowhere. -/
theorem update_fst (change : Value → α × Value) (steps : List Step) {v : Value}
    (wide : v.WithoutHoles) :
    (v.update change steps).map Prod.fst = (v.resolve steps).map fun u => (change u).1 := by
  induction steps generalizing v with
  | nil => rfl
  | cons step steps ih =>
    rw [update_cons change step steps wide, resolve]
    cases follows : v.follow step with
    | none => rfl
    | some u =>
      have inner := ih (withoutHoles_of_leads (leads_of_follow follows) wide)
      rw [Option.bind_some, Option.bind_some, ← inner, Option.map_map]
      rfl

/-- What a change of what is behind a step comes to. -/
theorem update_cons_eq_some {change : Value → α × Value} {step : Step} {steps : List Step}
    {v v' : Value} {a : α} (changes : v.update change (step :: steps) = some (a, v')) :
    ∃ u u', Leads step v u ∧ u.update change steps = some (a, u') ∧ v' = v.replace step u' := by
  cases v with
  | record type fields =>
    cases step with
    | field index =>
      rw [update] at changes
      split at changes
      · next changeable =>
        obtain ⟨u, found, changes⟩ := Option.bind_eq_some_iff.mp changes
        obtain ⟨⟨_, u'⟩, inner, is⟩ := Option.map_eq_some_iff.mp changes
        cases is
        rw [isChangeable] at changeable
        cases is : type.fields[index]? with
        | none => simp [is] at changeable
        | some info =>
          have shown : info.access ≠ .hidden := by
            intro hidden
            simp [is, hidden] at changeable
          exact ⟨u, u', .field is shown found, inner, rfl⟩
      · cases changes
    | index _ | deref => cases changes
  | seq items =>
    cases step with
    | index index =>
      rw [update] at changes
      obtain ⟨u, found, changes⟩ := Option.bind_eq_some_iff.mp changes
      obtain ⟨⟨_, u'⟩, inner, is⟩ := Option.map_eq_some_iff.mp changes
      cases is
      exact ⟨u, u', .item found, inner, rfl⟩
    | field _ | deref => cases changes
  | json j =>
    cases j with
    | array items =>
      cases step with
      | index index =>
        rw [update] at changes
        obtain ⟨item, found, changes⟩ := Option.bind_eq_some_iff.mp changes
        obtain ⟨⟨_, u'⟩, inner, is⟩ := Option.map_eq_some_iff.mp changes
        refine ⟨json item, u', .document found, ?_, ?_⟩
        · cases u' <;> cases is <;> exact inner
        · cases u' <;> cases is <;> rfl
      | field _ | deref => cases changes
    | null | bool _ | integer _ | float _ | string _ | object _ => cases step <;> cases changes
  | present content target =>
    cases step with
    | deref =>
      rw [update] at changes
      obtain ⟨⟨_, u'⟩, inner, is⟩ := Option.map_eq_some_iff.mp changes
      cases is
      exact ⟨target, u', .target, inner, rfl⟩
    | field _ | index _ => cases changes
  | boxed target =>
    cases step with
    | deref =>
      rw [update] at changes
      obtain ⟨⟨_, u'⟩, inner, is⟩ := Option.map_eq_some_iff.mp changes
      cases is
      exact ⟨target, u', .boxed, inner, rfl⟩
    | field _ | index _ => cases changes
  | bool _ | integer _ _ | single _ | double _ | text _ | fixedText _ | absent _ | map _
  | entry _ _ => cases step <;> cases changes

/-- A change is made of a value that steps lead to, and if it leaves that value as it is, it leaves
the whole as it is. -/
theorem resolve_of_update {change : Value → α × Value} {steps : List Step} {v v' : Value} {a : α}
    (changes : v.update change steps = some (a, v')) :
    ∃ u, v.resolve steps = some u ∧ (change u).1 = a ∧ ((change u).2 = u → v' = v) := by
  induction steps generalizing v v' with
  | nil =>
    have left : change v = (a, v') := Option.some.inj changes
    exact ⟨v, rfl, by rw [left], fun same => by rw [← same, left]⟩
  | cons step steps ih =>
    obtain ⟨t, t', leads, inner, rfl⟩ := update_cons_eq_some changes
    obtain ⟨u, found, is, same⟩ := ih inner
    refine ⟨u, ?_, is, fun still => ?_⟩
    · rw [resolve, follow_of_leads leads, Option.bind_some, found]
    · rw [same still, replace_self leads]

/-- A change somewhere inside leaves what is true of all structure types true, if it does so
where it is made. -/
theorem everyType_update {p : RecordType → Prop} {change : Value → α × Value} {steps : List Step}
    {v v' : Value} {a : α} (changes : v.update change steps = some (a, v'))
    (keeps : ∀ u : Value, u.EveryType p → (change u).1 = a → (change u).2.EveryType p)
    (every : v.EveryType p) : v'.EveryType p := by
  induction steps generalizing v v' with
  | nil =>
    have left : change v = (a, v') := Option.some.inj changes
    have kept := keeps v every (congrArg Prod.fst left)
    rwa [left] at kept
  | cons step steps ih =>
    obtain ⟨u, u', leads, inner, rfl⟩ := update_cons_eq_some changes
    exact everyType_replace leads every (ih inner (everyType_of_leads leads every))

/-- If a change leaves documents documents, so does making it somewhere inside. -/
theorem replaces_update {change : Value → α × Value}
    (settles : ∀ v : Value, v.Replaces (change v).2) {steps : List Step} {v v' : Value} {a : α}
    (changes : v.update change steps = some (a, v')) :
    v.Replaces v' := by
  induction steps generalizing v v' with
  | nil =>
    have left : change v = (a, v') := Option.some.inj changes
    have settled := settles v
    rwa [left] at settled
  | cons step steps ih =>
    obtain ⟨u, u', leads, inner, rfl⟩ := update_cons_eq_some changes
    exact replaces_replace leads (ih inner)

/-- What a change leaves is read at its place afterwards. -/
theorem resolve_update {change : Value → α × Value} (settles : ∀ v : Value, v.Replaces (change v).2)
    {steps : List Step} {v v' : Value} {a : α} (changes : v.update change steps = some (a, v')) :
    v'.resolve steps = (v.resolve steps).map fun u => (change u).2 := by
  induction steps generalizing v v' with
  | nil =>
    have left : change v = (a, v') := Option.some.inj changes
    rw [resolve, resolve, Option.map_some, left]
  | cons step steps ih =>
    obtain ⟨u, u', leads, inner, rfl⟩ := update_cons_eq_some changes
    have there := follow_of_leads (leads_replace leads (replaces_update settles inner))
    rw [resolve, resolve, there, follow_of_leads leads, Option.bind_some, Option.bind_some]
    exact ih inner

/-- Nothing is read differently that is neither at the place of a change, nor around it, nor
inside it. -/
theorem resolve_update_apart {change : Value → α × Value}
    (settles : ∀ v : Value, v.Replaces (change v).2)
    {steps others : List Step} (inside : ¬ steps <+: others) (around : ¬ others <+: steps)
    {v v' : Value} {a : α} (changes : v.update change steps = some (a, v')) :
    v'.resolve others = v.resolve others := by
  induction steps generalizing v v' others with
  | nil => exact absurd (List.nil_prefix) inside
  | cons step steps ih =>
    cases others with
    | nil => exact absurd (List.nil_prefix) around
    | cons other others =>
      obtain ⟨u, u', leads, inner, rfl⟩ := update_cons_eq_some changes
      rw [resolve, resolve]
      by_cases same : other = step
      · subst same
        rw [List.cons_prefix_cons] at inside around
        have there := follow_of_leads (leads_replace leads (replaces_update settles inner))
        rw [there, follow_of_leads leads]
        exact ih (fun before => inside ⟨rfl, before⟩) (fun before => around ⟨rfl, before⟩) inner
      · rw [follow_replace_of_ne leads same]

end update

/-! ## Assigning -/

/-- Assigning a literal to a document leaves a document. -/
theorem replaces_set (l : Literal) (v : Value) : v.Replaces (v.set l).2 := by
  rintro _ rfl
  exact ⟨_, rfl⟩

/-- Steps lead to a value for a change exactly if they do for reading, and to the same one.
Assigning a literal there leaves what assigning it to that value alone leaves, and every place
that neither contains this one nor lies in it reads as before, whether the assignment
succeeds or not. -/
theorem resolve_update_set {v : Value} (wide : v.WithoutHoles) (l : Literal) (steps : List Step) :
    (∀ (α : Type) (change : Value → α × Value),
      (v.update change steps).map Prod.fst = (v.resolve steps).map fun u => (change u).1) ∧
    ∀ target, v.resolve steps = some target →
      ∃ v', v.update (set l) steps = some ((target.set l).1, v') ∧
        v'.resolve steps = some (target.set l).2 ∧
        ∀ others, ¬ steps <+: others → ¬ others <+: steps →
          v'.resolve others = v.resolve others := by
  refine ⟨fun α change => update_fst change steps wide, fun target leads => ?_⟩
  have found := update_fst (set l) steps wide
  rw [leads, Option.map_some] at found
  obtain ⟨⟨outcome, v'⟩, changes, is⟩ := Option.map_eq_some_iff.mp found
  cases is
  refine ⟨v', changes, ?_, fun others inside around => ?_⟩
  · rw [resolve_update (replaces_set l) changes, leads, Option.map_some]
  · exact resolve_update_apart (replaces_set l) inside around changes

/-- An element of a list in a structure, beside a document. -/
theorem resolve_update_set_of_element :
    let type : RecordType := { name := "Page", fields := [{ name := "tags" }, { name := "extra" }] }
    let tags : Value := .seq [.text "old", .absent ⟨.text, []⟩]
    let v : Value := .record type [tags, .json (.array [.null])]
    let l : Literal := .str "new"
    let steps : List Step := [.field 0, .index 1]
    v.WithoutHoles ∧ v.resolve steps = some (.absent ⟨.text, []⟩) ∧
      ∃ v', v.update (set l) steps = some (.ok (), v') ∧
        v'.resolve steps = some (.present ⟨.text, []⟩ (.text "new")) ∧
        v'.resolve [.field 0, .index 0] = some (.text "old") ∧
        v'.resolve [.field 1, .index 0] = some (.json .null) := by
  intro type tags v l steps
  have wide : v.WithoutHoles := by simp [v, type, tags, WithoutHoles, EveryType, EveryTypeIn]
  obtain ⟨v', changes, there, elsewhere⟩ := (resolve_update_set wide l steps).2 _ rfl
  refine ⟨wide, rfl, v', changes, there, ?_, ?_⟩
  · exact elsewhere [.field 0, .index 0] (by decide) (by decide)
  · exact elsewhere [.field 1, .index 0] (by decide) (by decide)

end Value

end RecordRules

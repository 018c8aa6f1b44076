import RecordRules.Proofs.Value.Locating

/-!
# Confined changes

A change is confined to the fields that are free if it leaves everything else as it is: hidden
fields and fields that are not exported, what pointers lead to, the elements of sequences and the
entries of maps.  What is inside of a free field may become anything.

`Confined` says so of two values as a whole, and `Confined.resolve_eq` says what this means for
the places that steps lead to.  A walk gets to its fields by steps of its own (`Walked`), which
enter exported fields only, and a change at the end of such steps is confined if it is so in
the field itself (`confined_update`).
-/

namespace RecordRules

namespace RecordType

/-- Walks get to the field at an index, and may change it. -/
def Exposes (type : RecordType) (index : Nat) : Prop :=
  ∃ info, type.fields[index]? = some info ∧ info.exported = true ∧ info.access = .full

/-- The field at an index is one of those that may become anything, with this value in it. -/
def Frees (free : FieldInfo → Value → Prop) (type : RecordType) (index : Nat) (u : Value) : Prop :=
  ∃ info, type.fields[index]? = some info ∧ info.exported = true ∧ info.access = .full ∧
    free info u

end RecordType

namespace Value

variable {free : FieldInfo → Value → Prop}

/-- Two values are the same but for what is inside of free fields of the first one. -/
inductive Confined (free : FieldInfo → Value → Prop) : Value → Value → Prop
  | same (v : Value) : Confined free v v
  | present {content : Content} {target target' : Value} : Confined free target target' →
    Confined free (present content target) (present content target')
  | boxed {target target' : Value} : Confined free target target' →
    Confined free (boxed target) (boxed target')
  | seq {items items' : List Value} : items'.length = items.length →
    (∀ (index : Nat) (u u' : Value), items[index]? = some u → items'[index]? = some u' →
      Confined free u u') →
    Confined free (seq items) (seq items')
  | record {type : RecordType} {fields fields' : List Value} : fields'.length = fields.length →
    (∀ index, ¬ type.Exposes index → fields'[index]? = fields[index]?) →
    (∀ (index : Nat) (u u' : Value), fields[index]? = some u → fields'[index]? = some u' →
      ¬ type.Frees free index u → Confined free u u') →
    Confined free (record type fields) (record type fields')

/-- What lies at an index lies there in a list of the same length, too. -/
theorem exists_getElem? {α : Type} {l l' : List α} (length : l'.length = l.length) {index : Nat}
    {a : α} (found : l[index]? = some a) : ∃ a', l'[index]? = some a' := by
  obtain ⟨inside, -⟩ := List.getElem?_eq_some_iff.mp found
  exact ⟨l'[index], List.getElem?_eq_getElem (length ▸ inside)⟩

theorem Confined.mono {free' : FieldInfo → Value → Prop} {v v' : Value}
    (confined : Confined free v v') (freer : ∀ info u, free info u → free' info u) :
    Confined free' v v' := by
  induction confined with
  | same v => exact .same v
  | present _ ih => exact .present ih
  | boxed _ ih => exact .boxed ih
  | seq length _ ih => exact .seq length ih
  | record length closed _ ih =>
    refine .record length closed fun index u u' found found' unfree => ?_
    refine ih index u u' found found' fun frees => unfree ?_
    obtain ⟨info, is, exported, access, holds⟩ := frees
    exact ⟨info, is, exported, access, freer info u holds⟩

/-- One confined change after another is confined, if no field that was not free becomes so. -/
theorem Confined.trans
    (lasts : ∀ info u u', Confined free u u' → free info u' → free info u) {v v' v'' : Value}
    (first : Confined free v v') (second : Confined free v' v'') : Confined free v v'' := by
  induction first generalizing v'' with
  | same _ => exact second
  | present inner ih =>
    cases second with
    | same _ => exact .present inner
    | present inner' => exact .present (ih inner')
  | boxed inner ih =>
    cases second with
    | same _ => exact .boxed inner
    | boxed inner' => exact .boxed (ih inner')
  | seq length each ih =>
    cases second with
    | same _ => exact .seq length each
    | seq length' each' =>
      refine .seq (length'.trans length) fun index u u'' found found'' => ?_
      obtain ⟨u', found'⟩ := exists_getElem? length found
      exact ih index u u' found found' (each' index u' u'' found' found'')
  | record length closed each ih =>
    cases second with
    | same _ => exact .record length closed each
    | record length' closed' each' =>
      refine .record (length'.trans length)
        (fun index unexposed => (closed' index unexposed).trans (closed index unexposed))
        fun index u u'' found found'' unfree => ?_
      obtain ⟨u', found'⟩ := exists_getElem? length found
      refine ih index u u' found found' unfree (each' index u' u'' found' found'' ?_)
      rintro ⟨info, is, exported, access, holds⟩
      have confined := each index u u' found found' unfree
      exact unfree ⟨info, is, exported, access, lasts info u u' confined holds⟩

/-! ## Places -/

/-- A step leads from a structure to what is in a free field. -/
inductive Enters (free : FieldInfo → Value → Prop) : Step → Value → Value → Prop
  | field {type : RecordType} {fields : List Value} {index : Nat} {u : Value} :
    fields[index]? = some u → type.Frees free index u →
    Enters free (.field index) (record type fields) u

/-- Steps lead to a free field, or to a place inside of one. -/
def Within (free : FieldInfo → Value → Prop) (v : Value) (steps : List Step) : Prop :=
  ∃ before step rest t u, steps = before ++ step :: rest ∧ v.resolve before = some t ∧
    Enters free step t u

theorem within_step {step : Step} {v u : Value} (leads : Leads step v u) {steps : List Step}
    (within : u.Within free steps) : v.Within free (step :: steps) := by
  obtain ⟨before, last, rest, t, w, rfl, inner, enters⟩ := within
  refine ⟨step :: before, last, rest, t, w, rfl, ?_, enters⟩
  rw [resolve, follow_of_leads leads, Option.bind_some, inner]

theorem within_of_enters {step : Step} {v u : Value} (enters : Enters free step v u)
    (rest : List Step) : v.Within free (step :: rest) :=
  ⟨[], step, rest, v, u, rfl, rfl, enters⟩

theorem leads_of_exposes {type : RecordType} {index : Nat} (exposes : type.Exposes index)
    {fields : List Value} {u : Value} (found : fields[index]? = some u) :
    Leads (.field index) (record type fields) u := by
  obtain ⟨info, is, -, access⟩ := exposes
  refine .field is ?_ found
  rw [access]
  exact nofun

/-- What has no free field in it stays the same. -/
theorem Confined.eq {v v' : Value} (confined : Confined free v v')
    (unfree : ∀ steps, ¬ v.Within free steps) : v' = v := by
  induction confined with
  | same v => rfl
  | present _ ih =>
    rw [ih fun steps within => unfree _ (within_step .target within)]
  | boxed _ ih =>
    rw [ih fun steps within => unfree _ (within_step .boxed within)]
  | @seq items items' length _ ih =>
    congr 1
    refine List.ext_getElem length fun index inside' inside => ?_
    have found := List.getElem?_eq_getElem inside
    refine ih index _ _ found (List.getElem?_eq_getElem inside') fun steps within => ?_
    exact unfree _ (within_step (.item found) within)
  | @record type fields fields' length closed _ ih =>
    congr 1
    refine List.ext_getElem length fun index inside' inside => ?_
    have found := List.getElem?_eq_getElem inside
    have found' := List.getElem?_eq_getElem inside'
    by_cases exposes : type.Exposes index
    · refine ih index _ _ found found'
        (fun frees => unfree _ (within_of_enters (.field found frees) [])) ?_
      exact fun steps within => unfree _ (within_step (leads_of_exposes exposes found) within)
    · have same := closed index exposes
      rw [found, found'] at same
      exact Option.some.inj same

theorem getElem?_eq_none {α : Type} {l l' : List α} (length : l'.length = l.length) {index : Nat}
    (beyond : l[index]? = none) : l'[index]? = none := by
  rw [List.getElem?_eq_none_iff] at beyond ⊢
  exact length ▸ beyond

/-- A step leads on from both values or from neither, and unless it enters a free field, what it
leads to differs no more than they do. -/
theorem Confined.follow {v v' : Value} (confined : Confined free v v') (step : Step) :
    v.follow step = none ∧ v'.follow step = none ∨
      ∃ u u', v.follow step = some u ∧ v'.follow step = some u' ∧
        (Enters free step v u ∨ Confined free u u') := by
  cases confined with
  | same _ =>
    cases follows : v.follow step with
    | none => exact .inl ⟨rfl, rfl⟩
    | some u => exact .inr ⟨u, u, rfl, rfl, .inr (.same u)⟩
  | present inner | boxed inner =>
    cases step with
    | deref => exact .inr ⟨_, _, rfl, rfl, .inr inner⟩
    | field _ | index _ => exact .inl ⟨rfl, rfl⟩
  | @seq items items' length each =>
    cases step with
    | index index =>
      cases found : items[index]? with
      | none => exact .inl ⟨found, getElem?_eq_none length found⟩
      | some u =>
        obtain ⟨u', found'⟩ := exists_getElem? length found
        exact .inr ⟨u, u', found, found', .inr (each index u u' found found')⟩
    | field _ | deref => exact .inl ⟨rfl, rfl⟩
  | @record type fields fields' length closed each =>
    cases step with
    | field index =>
      change fieldAt type fields index = none ∧ fieldAt type fields' index = none ∨
        ∃ u u', fieldAt type fields index = some u ∧ fieldAt type fields' index = some u' ∧ _
      by_cases exposes : type.Exposes index
      · cases found : fields[index]? with
        | none =>
          have nowhere : ∀ {fs : List Value}, fs[index]? = none → fieldAt type fs index = none := by
            intro fs beyond
            rw [Option.eq_none_iff_forall_ne_some]
            intro u is
            obtain ⟨_, _, _, found⟩ := fieldAt_eq_some_iff.mp is
            rw [beyond] at found
            cases found
          exact .inl ⟨nowhere found, nowhere (getElem?_eq_none length found)⟩
        | some u =>
          obtain ⟨u', found'⟩ := exists_getElem? length found
          refine .inr ⟨u, u', follow_of_leads (leads_of_exposes exposes found),
            follow_of_leads (leads_of_exposes exposes found'), ?_⟩
          by_cases frees : type.Frees free index u
          · exact .inl (.field found frees)
          · exact .inr (each index u u' found found' frees)
      · have same : fieldAt type fields' index = fieldAt type fields index := by
          rw [fieldAt, fieldAt, closed index exposes]
        rw [same]
        cases fieldAt type fields index with
        | none => exact .inl ⟨rfl, rfl⟩
        | some u => exact .inr ⟨u, u, rfl, rfl, .inr (.same u)⟩
    | index _ | deref => exact .inl ⟨rfl, rfl⟩

/-- Steps that lead neither into a free field nor to something around one lead to what they led
to before, if to anything. -/
theorem Confined.resolve_eq {v v' : Value} (confined : Confined free v v') {steps : List Step}
    (apart : ∀ rest, ¬ v.Within free (steps ++ rest)) : v'.resolve steps = v.resolve steps := by
  induction steps generalizing v v' with
  | nil => exact congrArg some (confined.eq apart)
  | cons step steps ih =>
    rw [resolve, resolve]
    rcases confined.follow step with ⟨nowhere, nowhere'⟩ | ⟨u, u', follows, follows', same⟩
    · rw [nowhere, nowhere']
    · rw [follows, follows', Option.bind_some, Option.bind_some]
      refine ih (same.resolve_left fun enters => ?_) fun rest within => ?_
      · exact apart [] (within_of_enters enters _)
      · exact apart rest (within_step (leads_of_follow follows) within)

/-! ## The steps of a walk -/

/-- If the step enters a field, it is an exported one. -/
def Exports (v : Value) (step : Step) : Prop :=
  ∀ type fields index info, v = record type fields → step = .field index →
    type.fields[index]? = some info → info.exported = true

theorem exports_of_ne {v : Value} {step : Step} (other : ∀ index, step ≠ .field index) :
    v.Exports step :=
  fun _ _ index _ _ is _ => absurd is (other index)

/-- Steps that a walk takes lead from a value to another one inside it. -/
inductive Walked : List Step → Value → Value → Prop
  | here (v : Value) : Walked [] v v
  | step {step : Step} {steps : List Step} {v u w : Value} : Leads step v u → v.Exports step →
    Walked steps u w → Walked (step :: steps) v w

theorem resolve_of_walked {steps : List Step} {v w : Value} (walked : Walked steps v w) :
    v.resolve steps = some w := by
  induction walked with
  | here _ => rfl
  | step leads _ _ ih => rw [resolve, follow_of_leads leads, Option.bind_some, ih]

theorem Walked.push {steps : List Step} {v u w : Value} (walked : Walked steps v u) {last : Step}
    (leads : Leads last u w) (exports : u.Exports last) : Walked (steps ++ [last]) v w := by
  induction walked with
  | here _ => exact .step leads exports (.here w)
  | step first exported _ ih => exact .step first exported (ih leads exports)

/-- Structures and sequences: what a walk gets into and no literal can be assigned to. -/
def isCompound : Value → Bool
  | record _ _ => true
  | seq _ => true
  | _ => false

/-- Assigning to a structure or to a sequence leaves it alone. -/
theorem set_compound {v : Value} (compound : v.isCompound = true) (l : Literal) :
    (v.set l).2 = v := by
  cases v with
  | record _ _ | seq _ => rfl
  | bool _ | integer _ _ | single _ | double _ | text _ | fixedText _ | json _ | absent _
  | present _ _ | boxed _ | map _ | entry _ _ => cases compound

theorem isCompound_document {steps : List Step} {j : Json} {w : Value}
    (walked : Walked steps (json j) w) : w.isCompound = false := by
  induction steps generalizing j with
  | nil =>
    cases walked
    rfl
  | cons step steps ih =>
    cases walked with
    | step leads _ rest =>
      cases leads with
      | document _ => exact ih rest

/-- A zero value is compound itself, or there is nothing compound in it. -/
theorem isCompound_of_isZero {steps : List Step} {v w : Value} (walked : Walked steps v w)
    (zero : v.isZero = true) (plain : v.isCompound = false) : w.isCompound = false := by
  cases walked with
  | here _ => exact plain
  | step leads _ rest =>
    cases leads with
    | field _ _ _ | item _ => cases plain
    | document _ => exact isCompound_document rest
    | target | boxed =>
      rw [isZero] at zero
      cases zero

theorem Confined.eq_of_isZero {v v' : Value} (confined : Confined free v v')
    (zero : v'.isZero = true) (plain : v'.isCompound = false) : v = v' := by
  cases confined with
  | same _ => rfl
  | seq _ _ | record _ _ _ => cases plain
  | present _ | boxed _ =>
    rw [isZero] at zero
    cases zero

/-! ## Changes at the end of a walk -/

/-- Fields are free at most while their value is zero and not compound. -/
def Sparing (free : FieldInfo → Value → Prop) : Prop :=
  ∀ info u, free info u → u.isZero = true ∧ u.isCompound = false

theorem Sparing.trans (sparing : Sparing free) {v v' v'' : Value} (first : Confined free v v')
    (second : Confined free v' v'') : Confined free v v'' := by
  refine first.trans (fun info u u' confined holds => ?_) second
  obtain ⟨zero, plain⟩ := sparing info u' holds
  exact confined.eq_of_isZero zero plain ▸ holds

theorem Confined.exports {v v' : Value} (confined : Confined free v v') {step : Step}
    (exports : v.Exports step) : v'.Exports step := by
  rintro type fields index info rfl rfl is
  cases confined with
  | same _ => exact exports _ _ _ _ rfl rfl is
  | record _ _ _ => exact exports _ _ _ _ rfl rfl is

/-- The structures and sequences that a walk gets to are still there after a confined change, and
what has changed in them is confined. -/
theorem Sparing.walked (sparing : Sparing free) {steps : List Step} {v v' w : Value}
    (confined : Confined free v v') (walked : Walked steps v w) (compound : w.isCompound = true) :
    ∃ w', Walked steps v' w' ∧ Confined free w w' := by
  induction walked generalizing v' with
  | here w => exact ⟨v', .here v', confined⟩
  | @step step steps v u w leads exports rest ih =>
    have exports' := confined.exports exports
    rcases confined.follow step with ⟨nowhere, -⟩ | ⟨_, u', follows, follows', same⟩
    · rw [follow_of_leads leads] at nowhere
      cases nowhere
    rw [follow_of_leads leads] at follows
    cases follows
    rcases same with ⟨found, info, _, _, _, holds⟩ | inner
    · -- Nothing compound lies in a free field, so the steps do not enter one.
      obtain ⟨zero, plain⟩ := sparing info u holds
      rw [isCompound_of_isZero rest zero plain] at compound
      cases compound
    · obtain ⟨w', walked', inner'⟩ := ih inner compound
      exact ⟨w', .step (leads_of_follow follows') exports' walked', inner'⟩

/-- What is put where a step leads is a confined change if it goes into a free field, or is one
itself. -/
theorem confined_replace {step : Step} {v u u' : Value} (leads : Leads step v u)
    (exposes : ∀ type fields index, v = record type fields → step = .field index →
      type.Exposes index)
    (inner : Enters free step v u ∨ Confined free u u') : Confined free v (v.replace step u') := by
  cases leads with
  | @field type fields index info u is shown found =>
    obtain ⟨inside, -⟩ := List.getElem?_eq_some_iff.mp found
    rw [replace]
    refine .record List.length_set (fun other unexposed => ?_) fun other t t' old new unfree => ?_
    · refine List.getElem?_set_ne fun same => unexposed ?_
      rw [← same]
      exact exposes _ _ _ rfl rfl
    · by_cases same : index = other
      · subst same
        rw [List.getElem?_set_self inside] at new
        rw [found] at old
        cases old
        cases new
        refine inner.resolve_left ?_
        rintro ⟨_, frees⟩
        exact unfree frees
      · rw [List.getElem?_set_ne same, old] at new
        cases new
        exact .same t
  | @item items index u found =>
    obtain ⟨inside, -⟩ := List.getElem?_eq_some_iff.mp found
    rw [replace]
    refine .seq List.length_set fun other t t' old new => ?_
    by_cases same : index = other
    · subst same
      rw [List.getElem?_set_self inside] at new
      rw [found] at old
      cases old
      cases new
      exact inner.resolve_left (by rintro ⟨⟩)
    · rw [List.getElem?_set_ne same, old] at new
      cases new
      exact .same t
  | @document items index j found =>
    obtain ⟨inside, rfl⟩ := List.getElem?_eq_some_iff.mp found
    cases inner.resolve_left (by rintro ⟨⟩)
    rw [replace, List.set_getElem_self inside]
    exact .same _
  | target => exact .present (inner.resolve_left (by rintro ⟨⟩))
  | boxed => exact .boxed (inner.resolve_left (by rintro ⟨⟩))

section update

variable {α : Type} {change : Value → α × Value} {a : α} {v' : Value}

/-- Only fields that may be changed are on the way of a change. -/
theorem exposes_of_update {type : RecordType} {fields : List Value} {index : Nat}
    {steps : List Step} (exports : (record type fields).Exports (.field index))
    (changes : (record type fields).update change (.field index :: steps) = some (a, v')) :
    type.Exposes index := by
  rw [update] at changes
  split at changes
  · next changeable =>
    rw [isChangeable] at changeable
    split at changeable
    · next info is => exact ⟨info, is, exports _ _ _ _ rfl rfl is, eq_of_beq changeable⟩
    · cases changeable
  · cases changes

/-- A change of a field that a walk gets to is confined, if the field is free or the change of
its value is. -/
theorem confined_update {steps : List Step} {v : Value} {type : RecordType} {fields : List Value}
    (walked : Walked steps v (record type fields)) {index : Nat} {info : FieldInfo}
    (is : type.fields[index]? = some info) (exported : info.exported = true)
    (changes : v.update change (steps ++ [.field index]) = some (a, v'))
    (settles : ∀ u, fields[index]? = some u → free info u ∨ Confined free u (change u).2) :
    Confined free v v' := by
  generalize target : record type fields = w at walked
  induction walked generalizing v' with
  | here _ =>
    subst target
    have exports : (record type fields).Exports (.field index) := by
      rintro _ _ _ _ ⟨⟩ ⟨⟩ is'
      rw [is] at is'
      exact Option.some.inj is' ▸ exported
    have exposes := exposes_of_update exports changes
    obtain ⟨u, u', leads, inner, rfl⟩ := update_cons_eq_some changes
    have left : change u = (a, u') := Option.some.inj inner
    refine confined_replace leads (by rintro _ _ _ ⟨⟩ ⟨⟩; exact exposes) ?_
    cases leads with
    | field _ _ found =>
      obtain ⟨_, is', _, access⟩ := exposes
      rw [is] at is'
      cases is'
      have settled := settles u found
      rw [left] at settled
      exact settled.imp_left fun holds => .field found ⟨info, is, exported, access, holds⟩
  | step leads exports _ ih =>
    obtain ⟨_, u', leads', inner, rfl⟩ := update_cons_eq_some changes
    cases leads_unique leads leads'
    refine confined_replace leads ?_ (.inr (ih inner target))
    rintro type fields index rfl rfl
    exact exposes_of_update exports changes

end update

end Value

end RecordRules

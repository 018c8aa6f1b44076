import RecordRules.Proofs.Annotation
import RecordRules.Proofs.Check.Running
import RecordRules.Proofs.Value.Bare
import RecordRules.Proofs.Value.Parts

/-!
# Delegation

A field that holds a structure is walked into, unless an annotation has the structure
validated by a validator of its own: the field is then delegated to that validator.  A
value delegates some of its fields if it is the same as before but for the annotations
of these fields, wherever they are: in structures in structures, behind pointers, or in
sequences and maps.
-/

namespace RecordRules

/-- The entry that delegates a field. -/
def delegation : Pair where
  name := "validate"
  quoted := "\"structure\""
  value := "structure"

namespace FieldInfo

/-- The field with the entry in front of its annotation. -/
def delegated (info : FieldInfo) : FieldInfo :=
  { info with tag := "validate:\"structure\"" ++ " " ++ info.tag }

theorem read?_delegation (rest : List Char) :
    Pair.read? ("validate:\"structure\"".toList ++ rest) = some (delegation, 20) := by
  have text : "validate:\"structure\"".toList = ['v', 'a', 'l', 'i', 'd', 'a', 't', 'e', ':', '"',
      's', 't', 'r', 'u', 'c', 't', 'u', 'r', 'e', '"'] := rfl
  rw [text]
  simp [Pair.read?, List.takeWhile, List.dropWhile, isEntryNameChar, closingQuote]
  decide

theorem annotationPairs_delegated (info : FieldInfo) :
    annotationPairs info.delegated.tag = delegation :: annotationPairs info.tag :=
  annotationPairs_before (read?_delegation _)

/-- A delegated field is shown under the same name. -/
theorem segment_delegated (info : FieldInfo) :
    Walk.segment {} info.delegated = Walk.segment {} info := by
  have other : ¬ delegation.name = "json" := by decide
  have lookup : info.delegated.lookup "json" = info.lookup "json" := by
    rw [FieldInfo.lookup, annotationPairs_delegated, List.find?_cons_of_neg (by simpa using other)]
    rfl
  rw [Walk.segment, Walk.segment, Option.bind_some, Option.bind_some, lookup]
  rfl

/-- The field may be delegated: it is exported, shows its value, and is not annotated for
validation or for the walk, and its value is a structure behind pointers or absent. -/
structure Delegable (info : FieldInfo) (v : Value) : Prop where
  exported : info.exported = true
  shown : info.access ≠ .hidden
  free : ∀ pair ∈ annotationPairs info.tag, pair.name ≠ "validate" ∧ pair.name ≠ "walk"
  structured : (∃ type values, v.indirect = .record type values) ∨
    ∃ content, v.indirect = .absent content

end FieldInfo

/-- A structure type whose fields are shown under names that are no indices, and whose own check
fails with failures of the structure itself. -/
structure RecordType.Regular (type : RecordType) : Prop where
  named : ∀ info ∈ type.fields, Walk.segment {} info ≠ ""
  noIndex : ∀ info ∈ type.fields, (Walk.segment {} info).toList.head? ≠ some '['
  plain : ∀ check picture e,
    type.selfCheck = some check → check picture = .error e → e.fields = none

namespace Value

mutual

/-- The second value is the first one with some fields delegated. -/
inductive Delegates : Value → Value → Prop
  | bool (b : Bool) : Delegates (.bool b) (.bool b)
  | integer (type : IntType) (n : type.Number) : Delegates (.integer type n) (.integer type n)
  | single (x : Single) : Delegates (.single x) (.single x)
  | double (x : Double) : Delegates (.double x) (.double x)
  | text (s : String) : Delegates (.text s) (.text s)
  | fixedText (s : String) : Delegates (.fixedText s) (.fixedText s)
  | json (j : Json) : Delegates (.json j) (.json j)
  | absent {content content' : Content} :
    content.bare = content'.bare → Delegates (.absent content) (.absent content')
  | present {content content' : Content} {target target' : Value} :
    content.bare = content'.bare → Delegates target target' →
    Delegates (.present content target) (.present content' target')
  | boxed {target target' : Value} :
    Delegates target target' → Delegates (.boxed target) (.boxed target')
  | seq {items items' : List Value} :
    DelegatesIn items items' → Delegates (.seq items) (.seq items')
  | map {entries entries' : List (Value × Value)} :
    DelegatesOf entries entries' → Delegates (.map entries) (.map entries')
  | record {type : RecordType} {infos' : List FieldInfo} {values values' : List Value} :
    DelegatesFields type.fields values infos' values' →
    Delegates (.record type values) (.record { type with fields := infos' } values')
  | entry {key key' value value' : Value} :
    Delegates key key' → Delegates value value' → Delegates (.entry key value) (.entry key' value')

/-- The same for the elements of a sequence. -/
inductive DelegatesIn : List Value → List Value → Prop
  | nil : DelegatesIn [] []
  | cons {v v' : Value} {vs vs' : List Value} :
    Delegates v v' → DelegatesIn vs vs' → DelegatesIn (v :: vs) (v' :: vs')

/-- The same for the entries of a map. -/
inductive DelegatesOf : List (Value × Value) → List (Value × Value) → Prop
  | nil : DelegatesOf [] []
  | cons {key key' value value' : Value} {entries entries' : List (Value × Value)} :
    Delegates key key' → Delegates value value' → DelegatesOf entries entries' →
    DelegatesOf ((key, value) :: entries) ((key', value') :: entries')

/-- The same for the fields of a structure, which may be delegated if they have values. -/
inductive DelegatesFields :
    List FieldInfo → List Value → List FieldInfo → List Value → Prop
  | absent (infos : List FieldInfo) : DelegatesFields infos [] infos []
  | surplus {vs vs' : List Value} : DelegatesIn vs vs' → DelegatesFields [] vs [] vs'
  | keep {info : FieldInfo} {infos infos' : List FieldInfo} {v v' : Value} {vs vs' : List Value} :
    Delegates v v' → DelegatesFields infos vs infos' vs' →
    DelegatesFields (info :: infos) (v :: vs) (info :: infos') (v' :: vs')
  | delegate {info : FieldInfo} {infos infos' : List FieldInfo} {v v' : Value}
    {vs vs' : List Value} :
    info.Delegable v → Delegates v v' → DelegatesFields infos vs infos' vs' →
    DelegatesFields (info :: infos) (v :: vs) (info.delegated :: infos') (v' :: vs')

end

mutual

/-- No field has to be delegated. -/
theorem delegates_refl (v : Value) : v.Delegates v := by
  match v with
  | .present _ target => exact .present rfl (delegates_refl target)
  | .boxed target => exact .boxed (delegates_refl target)
  | .seq items => exact .seq (delegatesIn_refl items)
  | .map entries => exact .map (delegatesOf_refl entries)
  | .record type values => exact .record (delegatesFields_refl type.fields values)
  | .entry key value => exact .entry (delegates_refl key) (delegates_refl value)
  | .absent _ => exact .absent rfl
  | .bool b => exact .bool b
  | .integer type n => exact .integer type n
  | .single x => exact .single x
  | .double x => exact .double x
  | .text s => exact .text s
  | .fixedText s => exact .fixedText s
  | .json j => exact .json j
termination_by structural v

theorem delegatesIn_refl (vs : List Value) : DelegatesIn vs vs := by
  match vs with
  | [] => exact .nil
  | v :: vs => exact .cons (delegates_refl v) (delegatesIn_refl vs)
termination_by structural vs

theorem delegatesOf_refl (entries : List (Value × Value)) : DelegatesOf entries entries := by
  match entries with
  | [] => exact .nil
  | (key, value) :: entries =>
    exact .cons (delegates_refl key) (delegates_refl value) (delegatesOf_refl entries)
termination_by structural entries

theorem delegatesFields_refl (infos : List FieldInfo) (vs : List Value) :
    DelegatesFields infos vs infos vs := by
  match infos, vs with
  | infos, [] => exact .absent infos
  | [], v :: vs => exact .surplus (.cons (delegates_refl v) (delegatesIn_refl vs))
  | info :: infos, v :: vs => exact .keep (delegates_refl v) (delegatesFields_refl infos vs)
termination_by structural vs

end

mutual

/-- Delegation changes nothing but annotations. -/
theorem bare_eq_of_delegates {v v' : Value} (delegates : v.Delegates v') : v.bare = v'.bare := by
  match v with
  | .present _ _ =>
    cases delegates with
    | present same target => rw [bare, bare, same, bare_eq_of_delegates target]
  | .boxed _ =>
    cases delegates with
    | boxed target => rw [bare, bare, bare_eq_of_delegates target]
  | .seq _ =>
    cases delegates with
    | seq items => rw [bare, bare, bares_eq_of_delegates items]
  | .map _ =>
    cases delegates with
    | map entries => rw [bare, bare, bareEntries_eq_of_delegates entries]
  | .record _ _ =>
    cases delegates with
    | record fields =>
      obtain ⟨infos, values⟩ := bares_eq_of_delegatesFields fields
      rw [bare, bare, RecordType.bare, RecordType.bare, infos, values]
  | .entry _ _ =>
    cases delegates with
    | entry key value => rw [bare, bare, bare_eq_of_delegates key, bare_eq_of_delegates value]
  | .absent _ =>
    cases delegates with
    | absent same => rw [bare, bare, same]
  | .bool _ | .integer _ _ | .single _ | .double _ | .text _ | .fixedText _ | .json _ =>
    cases delegates
    rfl
termination_by structural v

theorem bares_eq_of_delegates {vs vs' : List Value} (delegates : DelegatesIn vs vs') :
    bares vs = bares vs' := by
  match vs with
  | [] =>
    cases delegates
    rfl
  | _ :: _ =>
    cases delegates with
    | cons first rest => rw [bares, bares, bare_eq_of_delegates first, bares_eq_of_delegates rest]
termination_by structural vs

theorem bareEntries_eq_of_delegates {entries entries' : List (Value × Value)}
    (delegates : DelegatesOf entries entries') : bareEntries entries = bareEntries entries' := by
  match entries with
  | [] =>
    cases delegates
    rfl
  | (_, _) :: _ =>
    cases delegates with
    | cons key value rest =>
      rw [bareEntries, bareEntries, bare_eq_of_delegates key, bare_eq_of_delegates value,
        bareEntries_eq_of_delegates rest]
termination_by structural entries

theorem bares_eq_of_delegatesFields {infos infos' : List FieldInfo} {vs vs' : List Value}
    (delegates : DelegatesFields infos vs infos' vs') :
    infos.map FieldInfo.bare = infos'.map FieldInfo.bare ∧ bares vs = bares vs' := by
  match vs with
  | [] =>
    cases delegates with
    | absent _ => exact ⟨rfl, rfl⟩
    | surplus none =>
      cases none
      exact ⟨rfl, rfl⟩
  | _ :: _ =>
    cases delegates with
    | surplus values =>
      cases values with
      | cons first rest =>
        rw [bares, bares, bare_eq_of_delegates first, bares_eq_of_delegates rest]
        exact ⟨rfl, rfl⟩
    | keep first rest | delegate _ first rest =>
      obtain ⟨infos, values⟩ := bares_eq_of_delegatesFields rest
      rw [List.map_cons, List.map_cons, bares, bares, infos, values, bare_eq_of_delegates first]
      exact ⟨rfl, rfl⟩
termination_by structural vs

end

theorem delegates_indirect {v v' : Value} (delegates : v.Delegates v') :
    v.indirect.Delegates v'.indirect := by
  cases delegates with
  | present _ target =>
    rw [indirect, indirect]
    exact delegates_indirect target
  | boxed target =>
    rw [indirect, indirect]
    exact delegates_indirect target
  | bool b => exact .bool b
  | integer type n => exact .integer type n
  | single x => exact .single x
  | double x => exact .double x
  | text s => exact .text s
  | fixedText s => exact .fixedText s
  | json j => exact .json j
  | absent same => exact .absent same
  | seq items => exact .seq items
  | map entries => exact .map entries
  | record fields => exact .record fields
  | entry key value => exact .entry key value

/-! ## Structure types on both sides -/

theorem mem_of_delegatesFields {infos infos' : List FieldInfo} {vs vs' : List Value}
    (delegates : DelegatesFields infos vs infos' vs') {info' : FieldInfo} (mem : info' ∈ infos') :
    ∃ info ∈ infos, info' = info ∨ info' = info.delegated := by
  induction infos generalizing infos' vs vs' with
  | nil =>
    cases delegates with
    | absent _ => cases mem
    | surplus _ => cases mem
  | cons info infos ih =>
    cases delegates with
    | absent _ => exact ⟨info', mem, .inl rfl⟩
    | keep _ rest =>
      rcases List.mem_cons.mp mem with rfl | mem
      · exact ⟨_, List.mem_cons_self, .inl rfl⟩
      · obtain ⟨other, mem, is⟩ := ih rest mem
        exact ⟨other, List.mem_cons_of_mem _ mem, is⟩
    | delegate _ _ rest =>
      rcases List.mem_cons.mp mem with rfl | mem
      · exact ⟨info, List.mem_cons_self, .inr rfl⟩
      · obtain ⟨other, mem, is⟩ := ih rest mem
        exact ⟨other, List.mem_cons_of_mem _ mem, is⟩

/-- A property of structure types that does not depend on which fields are delegated. -/
def Lasting (p : RecordType → Prop) : Prop :=
  ∀ type infos', p type →
    (∀ info' ∈ infos', ∃ info ∈ type.fields, info' = info ∨ info' = info.delegated) →
    p { type with fields := infos' }

mutual

theorem everyType_of_delegates {p : RecordType → Prop} (lasting : Lasting p) {v v' : Value}
    (delegates : v.Delegates v') (every : v.EveryType p) : v'.EveryType p := by
  match v with
  | .present _ _ =>
    cases delegates with
    | present _ target =>
      rw [EveryType] at every ⊢
      exact everyType_of_delegates lasting target every
  | .boxed _ =>
    cases delegates with
    | boxed target =>
      rw [EveryType] at every ⊢
      exact everyType_of_delegates lasting target every
  | .seq _ =>
    cases delegates with
    | seq items =>
      rw [EveryType] at every ⊢
      exact everyTypeIn_of_delegates lasting items every
  | .map _ =>
    cases delegates with
    | map entries =>
      rw [EveryType] at every ⊢
      exact everyTypeOf_of_delegates lasting entries every
  | .record _ _ =>
    cases delegates with
    | record fields =>
      rw [EveryType] at every ⊢
      refine ⟨lasting _ _ every.1 fun info' mem => mem_of_delegatesFields fields mem, ?_⟩
      exact everyTypeIn_of_delegatesFields lasting fields every.2
  | .entry _ _ =>
    cases delegates with
    | entry key value =>
      rw [EveryType] at every ⊢
      exact ⟨everyType_of_delegates lasting key every.1,
        everyType_of_delegates lasting value every.2⟩
  | .bool _ | .integer _ _ | .single _ | .double _ | .text _ | .fixedText _ | .json _
  | .absent _ =>
    cases delegates
    simp [EveryType]
termination_by structural v

theorem everyTypeIn_of_delegates {p : RecordType → Prop} (lasting : Lasting p) {vs vs' : List Value}
    (delegates : DelegatesIn vs vs') (every : EveryTypeIn p vs) : EveryTypeIn p vs' := by
  match vs with
  | [] =>
    cases delegates
    exact every
  | _ :: _ =>
    cases delegates with
    | cons first rest =>
      rw [EveryTypeIn] at every ⊢
      exact ⟨everyType_of_delegates lasting first every.1,
        everyTypeIn_of_delegates lasting rest every.2⟩
termination_by structural vs

theorem everyTypeOf_of_delegates {p : RecordType → Prop} (lasting : Lasting p)
    {entries entries' : List (Value × Value)} (delegates : DelegatesOf entries entries')
    (every : EveryTypeOf p entries) : EveryTypeOf p entries' := by
  match entries with
  | [] =>
    cases delegates
    exact every
  | (_, _) :: _ =>
    cases delegates with
    | cons key value rest =>
      rw [EveryTypeOf] at every ⊢
      exact ⟨everyType_of_delegates lasting key every.1,
        everyType_of_delegates lasting value every.2.1,
        everyTypeOf_of_delegates lasting rest every.2.2⟩
termination_by structural entries

theorem everyTypeIn_of_delegatesFields {p : RecordType → Prop} (lasting : Lasting p)
    {infos infos' : List FieldInfo} {vs vs' : List Value}
    (delegates : DelegatesFields infos vs infos' vs') (every : EveryTypeIn p vs) :
    EveryTypeIn p vs' := by
  match vs with
  | [] =>
    cases delegates with
    | absent _ => exact every
    | surplus none =>
      cases none
      exact every
  | _ :: _ =>
    cases delegates with
    | surplus values =>
      cases values with
      | cons first rest =>
        rw [EveryTypeIn] at every ⊢
        exact ⟨everyType_of_delegates lasting first every.1,
          everyTypeIn_of_delegates lasting rest every.2⟩
    | keep first rest | delegate _ first rest =>
      rw [EveryTypeIn] at every ⊢
      exact ⟨everyType_of_delegates lasting first every.1,
        everyTypeIn_of_delegatesFields lasting rest every.2⟩
termination_by structural vs

end

theorem lasting_regular : Lasting RecordType.Regular := by
  intro type infos' regular from_fields
  have same : ∀ info' ∈ infos', ∃ info ∈ type.fields,
      Walk.segment {} info' = Walk.segment {} info := by
    intro info' mem
    obtain ⟨info, member, is⟩ := from_fields info' mem
    refine ⟨info, member, ?_⟩
    rcases is with rfl | rfl
    · rfl
    · exact info.segment_delegated
  refine ⟨fun info' mem => ?_, fun info' mem => ?_, regular.plain⟩
  · obtain ⟨info, mem, eq⟩ := same info' mem
    rw [eq]
    exact regular.named info mem
  · obtain ⟨info, mem, eq⟩ := same info' mem
    rw [eq]
    exact regular.noIndex info mem

/-! ## Validators on both sides -/

theorem forall₂_of_delegatesIn {vs vs' : List Value} (delegates : DelegatesIn vs vs') :
    List.Forall₂ Delegates vs vs' := by
  induction vs generalizing vs' with
  | nil =>
    cases delegates
    exact .nil
  | cons v vs ih =>
    cases delegates with
    | cons first rest => exact .cons first (ih rest)

theorem forall₂_of_delegatesOf {entries entries' : List (Value × Value)}
    (delegates : DelegatesOf entries entries') :
    List.Forall₂ (fun e e' => e.1.Delegates e'.1 ∧ e.2.Delegates e'.2) entries entries' := by
  induction entries generalizing entries' with
  | nil =>
    cases delegates
    exact .nil
  | cons e entries ih =>
    cases delegates with
    | cons key value rest => exact .cons ⟨key, value⟩ (ih rest)

theorem keyText_eq_of_delegates {v v' : Value} (delegates : v.Delegates v') :
    Validator.keyText v = Validator.keyText v' := by
  rw [← keyText_bare v, bare_eq_of_delegates delegates, keyText_bare]

theorem delegates_target {e e' : Value × Value} (key : e.1.Delegates e'.1)
    (value : e.2.Delegates e'.2) (part : MapPart) : (part.target e).Delegates (part.target e') := by
  cases part with
  | key => exact key
  | value => exact value
  | entry => exact .entry key value

/-- The parts of a document have no annotations. -/
theorem viewsRelated_json {rel : Value → Value → Prop} (j : Json)
    (same : ∀ u ∈ (Value.json j).parts, rel u u) :
    Validator.ViewsRelated rel (Value.json j).view (Value.json j).view := by
  rw [parts, show (Value.json j).indirect = Value.json j from rfl] at same
  generalize (Value.json j).view = view at same
  cases view with
  | seq items => exact .seq (List.forall₂_same.mpr same)
  | map entries =>
    refine .map (List.forall₂_same.mpr fun e mem => ⟨rfl, fun part => ?_⟩)
    exact same _ (target_mem_parts mem part)
  | null | bool _ | int _ | uint _ | float _ | str _ | record _ _ | pointer _ | entry _ _ =>
    exact .other rfl (by simp [View.kind]) (by simp [View.kind])

/-- Validators get from a value and one that delegates fields of it to parts of the same sort. -/
theorem partsRelated_delegates {P : Value → Prop} (closed : ∀ v, P v → ∀ u ∈ v.parts, P u) :
    Validator.PartsRelated fun v v' => v.Delegates v' ∧ P v := by
  rintro v v' ⟨delegates, holds⟩
  have inherit : ∀ u ∈ v.indirect.parts, P u := by
    rw [parts, indirect_idem]
    exact closed v holds
  have inner := delegates_indirect delegates
  generalize v.indirect = u at inner inherit ⊢
  generalize v'.indirect = u' at inner ⊢
  cases inner with
  | seq items =>
    have both := (List.forall₂_and_left _ _).mpr ⟨inherit, forall₂_of_delegatesIn items⟩
    exact .seq (both.imp fun _ _ related => related.symm)
  | @map entries _ delegates =>
    have both := (List.forall₂_and_left (p := (· ∈ entries)) _ _).mpr
      ⟨fun _ mem => mem, forall₂_of_delegatesOf delegates⟩
    refine .map (both.imp fun e e' related => ?_)
    obtain ⟨mem, key, value⟩ := related
    refine ⟨keyText_eq_of_delegates key, fun part => ?_⟩
    exact ⟨delegates_target key value part, inherit _ (target_mem_parts mem part)⟩
  | json j =>
    exact viewsRelated_json j fun u mem => ⟨delegates_refl u, inherit u mem⟩
  | integer type n =>
    rw [view, View.ofInteger]
    split
    · exact .other rfl (by simp [View.kind]) (by simp [View.kind])
    · exact .other rfl (by simp [View.kind]) (by simp [View.kind])
  | bool _ | single _ | double _ | text _ | fixedText _ | absent _ | present _ _ | boxed _
  | record _ | entry _ _ =>
    exact .other rfl (by simp [view, View.kind]) (by simp [view, View.kind])

end Value

end RecordRules

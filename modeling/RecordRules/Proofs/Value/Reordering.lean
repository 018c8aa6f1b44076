import Mathlib.Data.List.Perm.Basic
import RecordRules.Proofs.Value.Delegation

/-!
# Reordered fields

The fields of a structure stand in the order in which they are declared.  A value
reorders another one if it is the same but for that order, in any of the structures in
it: in fields, behind pointers, in sequences and in maps.  Every field takes its
annotation and its value along.

The order does not show from outside: such values have the same length, number, text
and scalar, are described in the same way, and both are zero or neither is.  So the
built-in checks cannot tell them apart.
-/

namespace RecordRules

/-- The fields of a structure with their values, and the same in another order. -/
structure Rearranged (infos : List FieldInfo) (values : List Value) (infos' : List FieldInfo)
    (values' : List Value) : Prop where
  length : infos.length = values.length
  length' : infos'.length = values'.length
  perm : (infos.zip values).Perm (infos'.zip values')

namespace Rearranged

variable {infos infos' : List FieldInfo} {values values' : List Value}

theorem perm_infos (rearranged : Rearranged infos values infos' values') : infos.Perm infos' := by
  have fields := rearranged.perm.map Prod.fst
  rwa [List.map_fst_zip (Nat.le_of_eq rearranged.length),
    List.map_fst_zip (Nat.le_of_eq rearranged.length')] at fields

theorem perm_values (rearranged : Rearranged infos values infos' values') :
    values.Perm values' := by
  have fields := rearranged.perm.map Prod.snd
  rwa [List.map_snd_zip (Nat.le_of_eq rearranged.length.symm),
    List.map_snd_zip (Nat.le_of_eq rearranged.length'.symm)] at fields

end Rearranged

namespace Value

mutual

/-- The second value is the first one with the fields of some structures in another order.  What an
absent value may hold does not count, and maps keep their entries in order. -/
inductive Reorders : Value → Value → Prop
  | bool (b : Bool) : Reorders (.bool b) (.bool b)
  | integer (type : IntType) (n : type.Number) : Reorders (.integer type n) (.integer type n)
  | single (x : Single) : Reorders (.single x) (.single x)
  | double (x : Double) : Reorders (.double x) (.double x)
  | text (s : String) : Reorders (.text s) (.text s)
  | fixedText (s : String) : Reorders (.fixedText s) (.fixedText s)
  | json (j : Json) : Reorders (.json j) (.json j)
  | absent (content content' : Content) : Reorders (.absent content) (.absent content')
  | present {content content' : Content} {target target' : Value} :
    Reorders target target' → Reorders (.present content target) (.present content' target')
  | boxed {target target' : Value} :
    Reorders target target' → Reorders (.boxed target) (.boxed target')
  | seq {items items' : List Value} :
    ReordersIn items items' → Reorders (.seq items) (.seq items')
  | map {entries entries' : List (Value × Value)} :
    ReordersOf entries entries' → Reorders (.map entries) (.map entries')
  | record {type : RecordType} {infos' : List FieldInfo} {values between values' : List Value} :
    ReordersIn values between → Rearranged type.fields between infos' values' →
    Reorders (.record type values) (.record { type with fields := infos' } values')
  | entry {key key' value value' : Value} :
    Reorders key key' → Reorders value value' → Reorders (.entry key value) (.entry key' value')

/-- The same for values one by one. -/
inductive ReordersIn : List Value → List Value → Prop
  | nil : ReordersIn [] []
  | cons {v v' : Value} {vs vs' : List Value} :
    Reorders v v' → ReordersIn vs vs' → ReordersIn (v :: vs) (v' :: vs')

/-- The same for the entries of a map. -/
inductive ReordersOf : List (Value × Value) → List (Value × Value) → Prop
  | nil : ReordersOf [] []
  | cons {key key' value value' : Value} {entries entries' : List (Value × Value)} :
    Reorders key key' → Reorders value value' → ReordersOf entries entries' →
    ReordersOf ((key, value) :: entries) ((key', value') :: entries')

end

theorem forall₂_of_reordersIn {vs vs' : List Value} (reorders : ReordersIn vs vs') :
    List.Forall₂ Reorders vs vs' := by
  induction vs generalizing vs' with
  | nil =>
    cases reorders
    exact .nil
  | cons v vs ih =>
    cases reorders with
    | cons first rest => exact .cons first (ih rest)

theorem forall₂_of_reordersOf {entries entries' : List (Value × Value)}
    (reorders : ReordersOf entries entries') :
    List.Forall₂ (fun e e' => e.1.Reorders e'.1 ∧ e.2.Reorders e'.2) entries entries' := by
  induction entries generalizing entries' with
  | nil =>
    cases reorders
    exact .nil
  | cons e entries ih =>
    cases reorders with
    | cons key value rest => exact .cons ⟨key, value⟩ (ih rest)

theorem length_eq_of_reordersIn {vs vs' : List Value} (reorders : ReordersIn vs vs') :
    vs.length = vs'.length :=
  (forall₂_of_reordersIn reorders).length_eq

theorem length_eq_of_reordersOf {entries entries' : List (Value × Value)}
    (reorders : ReordersOf entries entries') : entries.length = entries'.length :=
  (forall₂_of_reordersOf reorders).length_eq

theorem reorders_indirect {v v' : Value} (reorders : v.Reorders v') :
    v.indirect.Reorders v'.indirect := by
  cases reorders with
  | present target =>
    rw [indirect, indirect]
    exact reorders_indirect target
  | boxed target =>
    rw [indirect, indirect]
    exact reorders_indirect target
  | bool b => exact .bool b
  | integer type n => exact .integer type n
  | single x => exact .single x
  | double x => exact .double x
  | text s => exact .text s
  | fixedText s => exact .fixedText s
  | json j => exact .json j
  | absent content content' => exact .absent content content'
  | seq items => exact .seq items
  | map entries => exact .map entries
  | record inside rearranged => exact .record inside rearranged
  | entry key value => exact .entry key value

end Value

/-! ## Views -/

/-- Views that differ further inside at most, or in the order of fields. -/
inductive View.Alike : View → View → Prop
  | same (view : View) : Alike view view
  | record {type type' : RecordType} (values values' : List Value) :
    type.name = type'.name → Alike (.record type values) (.record type' values')
  | seq {items items' : List Value} :
    items.length = items'.length → Alike (.seq items) (.seq items')
  | map {entries entries' : List (Value × Value)} :
    entries.length = entries'.length → Alike (.map entries) (.map entries')
  | pointer (target target' : Value) : Alike (.pointer target) (.pointer target')
  | entry (key key' value value' : Value) : Alike (.entry key value) (.entry key' value')

namespace Value

variable {v v' : Value}

theorem view_alike (reorders : v.Reorders v') : v.view.Alike v'.view := by
  cases reorders with
  | present _ => exact .pointer _ _
  | boxed _ => exact .pointer _ _
  | seq items => exact .seq (length_eq_of_reordersIn items)
  | map entries => exact .map (length_eq_of_reordersOf entries)
  | record _ _ => exact .record _ _ rfl
  | entry _ _ => exact .entry _ _ _ _
  | bool _ | integer _ _ | single _ | double _ | text _ | fixedText _ | json _ | absent _ _ =>
    exact .same _

theorem indirect_alike (reorders : v.Reorders v') : v.indirect.view.Alike v'.indirect.view :=
  view_alike (reorders_indirect reorders)

theorem kind_eq_of_reorders (reorders : v.Reorders v') : v.indirect.kind = v'.indirect.kind := by
  rw [kind, kind]
  have alike := indirect_alike reorders
  generalize v.indirect.view = view, v'.indirect.view = view' at alike ⊢
  cases alike <;> rfl

theorem length?_eq_of_reorders (reorders : v.Reorders v') : v.length? = v'.length? := by
  rw [length?, length?]
  have alike := indirect_alike reorders
  generalize v.indirect.view = view, v'.indirect.view = view' at alike ⊢
  cases alike with
  | seq same => exact congrArg some same
  | map same => exact congrArg some same
  | same _ | record _ _ _ | pointer _ _ | entry _ _ _ _ => rfl

theorem number?_eq_of_reorders (reorders : v.Reorders v') : v.number? = v'.number? := by
  rw [number?, number?]
  have alike := indirect_alike reorders
  generalize v.indirect.view = view, v'.indirect.view = view' at alike ⊢
  cases alike <;> rfl

theorem string?_eq_of_reorders (reorders : v.Reorders v') : v.string? = v'.string? := by
  rw [string?, string?]
  have alike := indirect_alike reorders
  generalize v.indirect.view = view, v'.indirect.view = view' at alike ⊢
  cases alike <;> rfl

theorem literal?_eq_of_reorders (reorders : v.Reorders v') : v.literal? = v'.literal? := by
  rw [literal?, literal?]
  have alike := indirect_alike reorders
  generalize v.indirect.view = view, v'.indirect.view = view' at alike ⊢
  cases alike <;> rfl

theorem describe_eq_of_reorders {v v' : Value} (reorders : v.Reorders v') :
    v.describe = v'.describe := by
  cases reorders with
  | present target => rw [describe, describe, describe_eq_of_reorders target]
  | boxed target => rw [describe, describe, describe_eq_of_reorders target]
  | entry key value =>
    rw [describe, describe, describe_eq_of_reorders key, describe_eq_of_reorders value]
  | seq items => simp [describe, view, length_eq_of_reordersIn items]
  | map entries => simp [describe, view, length_eq_of_reordersOf entries]
  | bool _ | integer _ _ | single _ | double _ | text _ | fixedText _ | json _ | absent _ _
  | record _ _ => rfl

theorem keyText_eq_of_reorders (reorders : v.Reorders v') :
    Validator.keyText v = Validator.keyText v' := by
  rw [Validator.keyText, Validator.keyText, literal?_eq_of_reorders reorders,
    describe_eq_of_reorders reorders]

/-! ## Zero values -/

theorem areZero_eq_all (infos : List FieldInfo) (vs : List Value) :
    areZero infos vs = (infos.zip vs).all fun f => f.1.access == .hidden || f.2.isZero := by
  induction infos generalizing vs with
  | nil => simp [areZero]
  | cons info infos ih =>
    cases vs with
    | nil => rfl
    | cons v vs => rw [areZero, List.zip_cons_cons, List.all_cons, ih vs]

mutual

theorem isZero_eq_of_reorders {v v' : Value} (reorders : v.Reorders v') :
    v.isZero = v'.isZero := by
  match v with
  | .record type values =>
    cases reorders with
    | record inside rearranged =>
      rw [isZero, isZero, areZero_eq_of_reordersIn type.fields inside, areZero_eq_all,
        areZero_eq_all]
      exact rearranged.perm.all_eq
  | .seq [] | .seq (_ :: _) =>
    cases reorders with
    | seq items => cases items; rfl
  | .map [] | .map (_ :: _) =>
    cases reorders with
    | map entries => cases entries; rfl
  | .bool _ | .integer _ _ | .single _ | .double _ | .text _ | .fixedText _ | .json _ | .absent _
  | .present _ _ | .boxed _ | .entry _ _ =>
    cases reorders
    rfl

theorem areZero_eq_of_reordersIn (infos : List FieldInfo) {vs vs' : List Value}
    (reorders : ReordersIn vs vs') : areZero infos vs = areZero infos vs' := by
  match infos, vs with
  | [], _ => simp [areZero]
  | _ :: _, [] =>
    cases reorders
    rfl
  | _ :: infos, _ :: _ =>
    cases reorders with
    | cons first rest =>
      rw [areZero, areZero, isZero_eq_of_reorders first, areZero_eq_of_reordersIn infos rest]

end

end Value

/-! ## Checks -/

namespace Check

variable {v v' : Value}

theorem measure_eq_of_reorders (code : String) (reorders : v.Reorders v') :
    measure code v = measure code v' := by
  rw [measure, measure, Value.length?_eq_of_reorders reorders,
    Value.number?_eq_of_reorders reorders, Value.kind_eq_of_reorders reorders]

theorem testText_eq_of_reorders (code : String) (test : String → Outcome)
    (reorders : v.Reorders v') : testText code v test = testText code v' test := by
  rw [testText, testText, Value.string?_eq_of_reorders reorders,
    Value.kind_eq_of_reorders reorders]

theorem testPower_eq_of_reorders (base start finish : Int64) (reorders : v.Reorders v') :
    testPower base start finish v = testPower base start finish v' := by
  rw [testPower, testPower]
  have alike := Value.indirect_alike reorders
  generalize v.indirect.view = view, v'.indirect.view = view' at alike ⊢
  cases alike <;> rfl

/-- The listed checks see neither the order of fields nor the root. -/
theorem test_eq_of_reorders {c : Check} (stock : ∀ custom, c ≠ .custom custom)
    (root root' : Option Value) (reorders : v.Reorders v') : c.test root v = c.test root' v' := by
  cases c with
  | zero => rw [test, test, Value.isZero_eq_of_reorders reorders]
  | required => rw [test, test, Value.isZero_eq_of_reorders reorders]
  | atLeast bound => rw [test, test, testLow, testLow, measure_eq_of_reorders _ reorders]
  | atMost bound => rw [test, test, testHigh, testHigh, measure_eq_of_reorders _ reorders]
  | within low high =>
    rw [test, test, testLow, testLow, testHigh, testHigh, measure_eq_of_reorders _ reorders]
  | lengthIs expected =>
    rw [test, test, testLength, testLength, Value.length?_eq_of_reorders reorders,
      Value.kind_eq_of_reorders reorders]
  | oneOf allowed =>
    rw [test, test, testOneOf, testOneOf, Value.literal?_eq_of_reorders reorders,
      Value.kind_eq_of_reorders reorders]
  | powerOf base start finish => exact testPower_eq_of_reorders base start finish reorders
  | hasFormat format => exact testText_eq_of_reorders _ _ reorders
  | matching source pattern => exact testText_eq_of_reorders _ _ reorders
  | custom custom => exact absurd rfl (stock custom)

end Check

/-! ## Structure types and parts -/

namespace Value

/-- A property of structure types that does not depend on the order of their fields. -/
def Unordered (p : RecordType → Prop) : Prop :=
  ∀ type infos', p type → type.fields.Perm infos' → p { type with fields := infos' }

theorem everyTypeIn_of_perm {p : RecordType → Prop} {vs vs' : List Value} (perm : vs.Perm vs')
    (every : EveryTypeIn p vs) : EveryTypeIn p vs' := by
  rw [everyTypeIn_iff] at every ⊢
  exact fun v mem => every v (perm.mem_iff.mpr mem)

mutual

theorem everyType_of_reorders {p : RecordType → Prop} (unordered : Unordered p) {v v' : Value}
    (reorders : v.Reorders v') (every : v.EveryType p) : v'.EveryType p := by
  match v with
  | .present _ _ =>
    cases reorders with
    | present target =>
      rw [EveryType] at every ⊢
      exact everyType_of_reorders unordered target every
  | .boxed _ =>
    cases reorders with
    | boxed target =>
      rw [EveryType] at every ⊢
      exact everyType_of_reorders unordered target every
  | .seq _ =>
    cases reorders with
    | seq items =>
      rw [EveryType] at every ⊢
      exact everyTypeIn_of_reorders unordered items every
  | .map _ =>
    cases reorders with
    | map entries =>
      rw [EveryType] at every ⊢
      exact everyTypeOf_of_reorders unordered entries every
  | .record _ _ =>
    cases reorders with
    | record inside rearranged =>
      rw [EveryType] at every ⊢
      refine ⟨unordered _ _ every.1 rearranged.perm_infos, ?_⟩
      exact everyTypeIn_of_perm rearranged.perm_values
        (everyTypeIn_of_reorders unordered inside every.2)
  | .entry _ _ =>
    cases reorders with
    | entry key value =>
      rw [EveryType] at every ⊢
      exact ⟨everyType_of_reorders unordered key every.1,
        everyType_of_reorders unordered value every.2⟩
  | .bool _ | .integer _ _ | .single _ | .double _ | .text _ | .fixedText _ | .json _
  | .absent _ =>
    cases reorders
    simp [EveryType]

theorem everyTypeIn_of_reorders {p : RecordType → Prop} (unordered : Unordered p)
    {vs vs' : List Value} (reorders : ReordersIn vs vs') (every : EveryTypeIn p vs) :
    EveryTypeIn p vs' := by
  match vs with
  | [] =>
    cases reorders
    exact every
  | _ :: _ =>
    cases reorders with
    | cons first rest =>
      rw [EveryTypeIn] at every ⊢
      exact ⟨everyType_of_reorders unordered first every.1,
        everyTypeIn_of_reorders unordered rest every.2⟩

theorem everyTypeOf_of_reorders {p : RecordType → Prop} (unordered : Unordered p)
    {entries entries' : List (Value × Value)} (reorders : ReordersOf entries entries')
    (every : EveryTypeOf p entries) : EveryTypeOf p entries' := by
  match entries with
  | [] =>
    cases reorders
    exact every
  | (_, _) :: _ =>
    cases reorders with
    | cons key value rest =>
      rw [EveryTypeOf] at every ⊢
      exact ⟨everyType_of_reorders unordered key every.1,
        everyType_of_reorders unordered value every.2.1,
        everyTypeOf_of_reorders unordered rest every.2.2⟩

end

theorem reorders_target {e e' : Value × Value} (key : e.1.Reorders e'.1)
    (value : e.2.Reorders e'.2) (part : MapPart) : (part.target e).Reorders (part.target e') := by
  cases part with
  | key => exact key
  | value => exact value
  | entry => exact .entry key value

/-- There are no structures in a document. -/
theorem reorders_of_mem_json {j : Json} {u : Value} (mem : u ∈ (Value.json j).parts) :
    u.Reorders u := by
  rcases cases_of_mem_parts mem with ⟨_, is, -⟩ | ⟨_, is, -⟩ | ⟨j, rfl⟩ | ⟨s, rfl⟩ | ⟨s, j, rfl⟩
  · cases is
  · cases is
  · exact .json j
  · exact .text s
  · exact .entry (.text s) (.json j)

/-- Validators get from a value and one that reorders fields of it to parts of the same sort. -/
theorem partsRelated_reorders {P : Value → Prop} (closed : ∀ v, P v → ∀ u ∈ v.parts, P u) :
    Validator.PartsRelated fun v v' => v.Reorders v' ∧ P v := by
  rintro v v' ⟨reorders, holds⟩
  have inherit : ∀ u ∈ v.indirect.parts, P u := by
    rw [parts, indirect_idem]
    exact closed v holds
  have inner := reorders_indirect reorders
  generalize v.indirect = u at inner inherit ⊢
  generalize v'.indirect = u' at inner ⊢
  cases inner with
  | seq items =>
    have both := (List.forall₂_and_left _ _).mpr ⟨inherit, forall₂_of_reordersIn items⟩
    exact .seq (both.imp fun _ _ related => related.symm)
  | @map entries _ reorders =>
    have both := (List.forall₂_and_left (p := (· ∈ entries)) _ _).mpr
      ⟨fun _ mem => mem, forall₂_of_reordersOf reorders⟩
    refine .map (both.imp fun e e' related => ?_)
    obtain ⟨mem, key, value⟩ := related
    refine ⟨keyText_eq_of_reorders key, fun part => ?_⟩
    exact ⟨reorders_target key value part, inherit _ (target_mem_parts mem part)⟩
  | json j =>
    exact viewsRelated_json j fun u mem => ⟨reorders_of_mem_json mem, inherit u mem⟩
  | integer type n =>
    rw [view, View.ofInteger]
    split
    · exact .other rfl (by simp [View.kind]) (by simp [View.kind])
    · exact .other rfl (by simp [View.kind]) (by simp [View.kind])
  | bool _ | single _ | double _ | text _ | fixedText _ | absent _ _ | present _ | boxed _
  | record _ _ | entry _ _ =>
    exact .other rfl (by simp [view, View.kind]) (by simp [view, View.kind])

end Value

end RecordRules

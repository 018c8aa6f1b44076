import RecordRules.Proofs.Engine.Inspection

/-!
# Inspections side by side

Inspections with different effects are related if the effects are.  It is enough that the
validations of nested structures are related for values that do not nest deeper than the
fields, and therefore `Reading.nested` may be unfolded without looking at what it excludes
in order to be well founded.
-/

namespace RecordRules

/-- Reports found with related effects. -/
def MonadRelation.inspect {m n : Type → Type} [Monad m] [Monad n] (R : MonadRelation m n) :
    MonadRelation (Inspect m) (Inspect n) where
  Rel x y := R.Rel x.run y.run
  pure _ := R.pure _
  bind first second := by
    refine R.bind first fun report => ?_
    cases report.result with
    | ok a => exact R.bind (second a) fun _ => R.pure _
    | error e => exact R.pure _

/-- Computations with the same effects are related if they are the same. -/
def MonadRelation.eq (m : Type → Type) [Monad m] : MonadRelation m m where
  Rel x y := x = y
  pure _ := rfl
  bind first second := by rw [first, funext second]

namespace Reading

theorem fields_nil {m : Type → Type} [Monad m] (reading : Reading) (r : Validator.Runner m)
    (root : Value) (path : String) (infos : List FieldInfo) :
    reading.fields r root path infos [] = reading.absentFields r root path infos := by
  cases infos with
  | nil => rw [fields, absentFields]
  | cons info infos => rw [fields]

section related

variable {m n : Type → Type} [Monad m] [Monad n] (R : MonadRelation m n)

/-- Runners with related effects, for values that nest no deeper than a bound. -/
structure RunnersRelated (bound : Nat) (r : Validator.Runner m) (r' : Validator.Runner n) :
    Prop where
  check : ∀ c root v, R.Rel (r.check c root v) (r'.check c root v)
  nested : ∀ outer v, v.weight ≤ bound → R.Rel (r.nested outer v) (r'.nested outer v)

variable {R} {bound : Nat} {r : Validator.Runner m} {r' : Validator.Runner n}

theorem fail_related {α : Type} (e : Fatal) :
    R.inspect.Rel (Inspect.fail e : Inspect m α) (Inspect.fail e) :=
  R.pure _

theorem note_related (path : String) (e : Failure) :
    R.inspect.Rel (Inspect.note path e) (Inspect.note path e) :=
  R.pure _

theorem perform_related {α : Type} {x : m α} {y : n α} (related : R.Rel x y) :
    R.inspect.Rel (Inspect.perform x) (Inspect.perform y) :=
  R.bind related fun _ => R.pure _

theorem report_related (path : String) (outcome : Outcome) :
    R.inspect.Rel (Inspect.report path outcome) (Inspect.report path outcome) := by
  cases outcome with
  | ok _ => exact R.inspect.pure _
  | error e => exact note_related path e

theorem when_related {c : Prop} [Decidable c] {x : Inspect m Unit} {y : Inspect n Unit}
    (related : R.inspect.Rel x y) : R.inspect.Rel (Inspect.when c x) (Inspect.when c y) := by
  unfold Inspect.when
  split
  · exact related
  · exact R.inspect.pure _

theorem clean_related {x : Inspect m Unit} {y : Inspect n Unit} (related : R.inspect.Rel x y) :
    R.inspect.Rel x.clean y.clean :=
  R.bind related fun _ => R.pure _

theorem run_bounded (runners : RunnersRelated R bound r r') (w : Validator) (root : Option Value)
    {v : Value} (within : v.weight ≤ bound) : R.Rel (w.run r root v) (w.run r' root v) := by
  have inherit : ∀ v : Value, v.weight ≤ bound → ∀ u ∈ v.parts, u.weight ≤ bound := by
    intro v within u mem
    have light := Value.weight_parts u mem
    omega
  have parts := Value.partsRelated_of_closed inherit
  refine Validator.run_related R parts ?_ w ?_ ⟨rfl, within⟩
  · rintro u _ ⟨rfl, within⟩
    exact runners.nested root u within
  · rintro c - u _ ⟨rfl, -⟩
    exact runners.check c root u

variable (reading : Reading) (root : Value)

theorem verify_related (runners : RunnersRelated R bound r r') (path : String) (w : Validator)
    {value : Option Value} (within : ∀ v, value = some v → v.depth ≤ bound) :
    R.inspect.Rel (verify r root path w value) (verify r' root path w value) := by
  cases value with
  | none => exact fail_related _
  | some v =>
    have light : v.weight ≤ bound := by
      have deep := within v rfl
      have weight := Value.weight_le_depth v
      omega
    have run := run_bounded runners w (some root) light
    refine R.inspect.bind (perform_related run) fun outcome => ?_
    exact R.inspect.bind (report_related path outcome) fun _ => R.inspect.pure _

theorem followPair_related (runners : RunnersRelated R bound r r') (path : String) (pair : Pair)
    {value : Option Value} (within : ∀ v, value = some v → v.depth ≤ bound) :
    R.inspect.Rel (followPair reading r root path value pair)
      (followPair reading r' root path value pair) := by
  unfold followPair
  split
  · cases PlainHandler.parseVerdict pair.value with
    | ok verdict => exact R.inspect.pure _
    | error e => exact fail_related _
  · split
    · cases reading.meaning pair.value with
      | ok w => exact verify_related root runners path w within
      | error e => exact fail_related _
    · exact R.inspect.pure _

theorem follow_related (runners : RunnersRelated R bound r r') (path : String)
    {value : Option Value} (within : ∀ v, value = some v → v.depth ≤ bound) (pairs : List Pair) :
    R.inspect.Rel (follow reading r root path value pairs)
      (follow reading r' root path value pairs) := by
  induction pairs with
  | nil => exact R.inspect.pure _
  | cons pair pairs ih =>
    have first := followPair_related reading root runners path pair within
    exact R.inspect.bind first fun _ => R.inspect.bind ih fun _ => R.inspect.pure _

theorem field_related (runners : RunnersRelated R bound r r') (path : String) (info : FieldInfo)
    {value : Option Value} (within : ∀ v, value = some v → v.depth ≤ bound)
    {enter : Inspect m Unit} {enter' : Inspect n Unit} (enters : R.inspect.Rel enter enter') :
    R.inspect.Rel (field reading r root path info value enter)
      (field reading r' root path info value enter') := by
  unfold field
  split
  · have follows := follow_related reading root runners path within (annotationPairs info.tag)
    refine R.inspect.bind follows fun verdict => ?_
    exact when_related enters
  · exact R.inspect.pure _

theorem absentFields_related (runners : RunnersRelated R bound r r') (path : String)
    (infos : List FieldInfo) :
    R.inspect.Rel (absentFields reading r root path infos)
      (absentFields reading r' root path infos) := by
  induction infos with
  | nil => exact R.inspect.pure _
  | cons info infos ih =>
    have within : ∀ v, (none : Option Value) = some v → v.depth ≤ bound := by
      intro v is
      cases is
    have first := field_related reading root runners
      (below path (Walk.segment reading.config info)) info within (R.inspect.pure ())
    exact R.inspect.bind first fun _ => ih

theorem shown_eq_some {info : FieldInfo} {u v : Value} (is : info.shown u = some v) : u = v := by
  unfold FieldInfo.shown at is
  split at is
  · cases is
  · cases is
    rfl

mutual

theorem content_related (runners : RunnersRelated R bound r r') (v : Value)
    (within : v.depth ≤ bound + 1) (inner : Bool) (path : String) :
    R.inspect.Rel (content reading r root inner path v) (content reading r' root inner path v) := by
  match v with
  | .present _ target =>
    rw [Value.depth] at within
    rw [content, content]
    exact content_related runners target (by omega) inner path
  | .boxed target =>
    rw [Value.depth] at within
    rw [content, content]
    exact content_related runners target (by omega) inner path
  | .record type values =>
    rw [Value.depth] at within
    rw [content, content]
    have fields := fields_related runners values (by omega) path type.fields
    refine R.inspect.bind (clean_related fields) fun clean => ?_
    exact when_related (report_related path _)
  | Value.seq items =>
    rw [Value.depth] at within
    rw [content, content]
    exact elements_related runners items (by omega) path 0
  | .bool _ | .integer _ _ | .single _ | .double _ | .text _ | .fixedText _ | .json _ | .absent _
  | .map _ | .entry _ _ =>
    simp only [content]
    exact R.inspect.pure _

theorem fields_related (runners : RunnersRelated R bound r r') (values : List Value)
    (within : Value.greatestDepth values ≤ bound) (path : String) (infos : List FieldInfo) :
    R.inspect.Rel (fields reading r root path infos values)
      (fields reading r' root path infos values) := by
  match infos, values with
  | [], _ =>
    rw [fields, fields]
    exact R.inspect.pure _
  | info :: infos, [] =>
    rw [fields, fields]
    exact absentFields_related reading root runners path _
  | info :: infos, v :: vs =>
    rw [Value.greatestDepth] at within
    rw [fields, fields]
    have shown : ∀ u, info.shown v = some u → u.depth ≤ bound := by
      intro u is
      rw [← shown_eq_some is]
      omega
    let place := below path (Walk.segment reading.config info)
    have enters := content_related runners v (by omega) true place
    have first := field_related reading root runners place info shown enters
    have others := fields_related runners vs (by omega) path infos
    exact R.inspect.bind first fun _ => others

theorem elements_related (runners : RunnersRelated R bound r r') (items : List Value)
    (within : Value.greatestDepth items ≤ bound) (path : String) (index : Nat) :
    R.inspect.Rel (elements reading r root path index items)
      (elements reading r' root path index items) := by
  match items with
  | [] =>
    rw [elements, elements]
    exact R.inspect.pure _
  | item :: items =>
    rw [Value.greatestDepth] at within
    rw [elements, elements]
    have enters := content_related runners item (by omega) true
      (path ++ "[" ++ toString index ++ "]")
    have others := elements_related runners items (by omega) path (index + 1)
    exact R.inspect.bind (when_related enters) fun _ => others

end

theorem alone_related {type : RecordType} {values : List Value}
    (runners : RunnersRelated R (Value.greatestDepth values) r r')
    {interrupted : Fatal → m Outcome} {interrupted' : Fatal → n Outcome}
    (ends : ∀ e, R.Rel (interrupted e) (interrupted' e)) (outer : Option Value) :
    R.Rel (reading.alone r interrupted outer type values)
      (reading.alone r' interrupted' outer type values) := by
  have reports := content_related reading (outer.getD (.record type values)) runners
    (.record type values) (Nat.le_refl _) false ""
  refine R.bind reports fun report => ?_
  cases report.result with
  | error e => exact ends e
  | ok _ =>
    dsimp only
    split
    · exact R.pure _
    · exact R.pure _

end related

section unfolding

variable {m : Type → Type} [Monad m] (reading : Reading) (effects : Effects m)

/-- The runner for validators at any place of an inspection. -/
def runner : Validator.Runner m where
  check := effects.check
  nested := reading.nested effects

/-- A structure is validated with its nested structures validated in the same way. -/
theorem nested_record {outer : Option Value} {v : Value} {type : RecordType} {values : List Value}
    (leads : v.indirect = .record type values) :
    reading.nested effects outer v =
      reading.alone (reading.runner effects) effects.interrupted outer type values := by
  rw [nested]
  split
  · next leads' =>
    obtain ⟨rfl, rfl⟩ := Value.record.inj (leads.symm.trans leads')
    have runners : RunnersRelated (.eq m) (Value.greatestDepth values)
        { check := effects.check
          nested := fun outer u =>
            if _smaller : u.weight < (Value.record type values).depth then
              reading.nested effects outer u
            else pure (.ok ()) } (reading.runner effects) := by
      refine ⟨fun _ _ _ => rfl, fun outer u within => ?_⟩
      have smaller : u.weight < (Value.record type values).depth := by
        rw [Value.depth]
        omega
      exact dif_pos smaller
    exact alone_related reading runners (fun _ => rfl) outer
  · next other => exact absurd leads (other type values)

theorem nested_other {outer : Option Value} {v : Value}
    (other : ∀ type values, v.indirect ≠ .record type values) :
    reading.nested effects outer v = pure v.indirect.noStructure := by
  rw [nested]
  split
  · next leads => exact absurd leads (other _ _)
  · rfl

end unfolding

section effects

variable {m n : Type → Type} [Monad m] [Monad n] (R : MonadRelation m n)

/-- Effects that are related. -/
structure EffectsRelated (effects : Effects m) (effects' : Effects n) : Prop where
  check : ∀ c root v, R.Rel (effects.check c root v) (effects'.check c root v)
  interrupted : ∀ e, R.Rel (effects.interrupted e) (effects'.interrupted e)

variable {R} {effects : Effects m} {effects' : Effects n}

theorem nested_related (reading : Reading) (related : EffectsRelated R effects effects')
    (outer : Option Value) (bound : Nat) {v : Value} (within : v.weight ≤ bound) :
    R.Rel (reading.nested effects outer v) (reading.nested effects' outer v) := by
  rcases v.record_or_other with ⟨type, values, leads⟩ | other
  · have depth := Value.depth_le_weight leads
    rw [Value.depth] at depth
    cases bound with
    | zero => omega
    | succ bound =>
      have runners : RunnersRelated R (Value.greatestDepth values) (reading.runner effects)
          (reading.runner effects') := by
        refine ⟨related.check, fun outer u light => ?_⟩
        exact nested_related reading related outer bound (by omega)
      rw [nested_record reading effects leads, nested_record reading effects' leads]
      exact alone_related reading runners related.interrupted outer
  · rw [nested_other reading effects other, nested_other reading effects' other]
    exact R.pure _

/-- Inspections with related effects end alike. -/
theorem inspect_related (reading : Reading) (related : EffectsRelated R effects effects')
    (v : Value) : R.Rel (reading.inspect effects v) (reading.inspect effects' v) := by
  have runners : RunnersRelated R v.depth (reading.runner effects) (reading.runner effects') :=
    ⟨related.check, fun outer u within => nested_related reading related outer _ within⟩
  have reports := content_related reading v runners v (Nat.le_succ _) false ""
  refine R.bind reports fun report => ?_
  cases report.result with
  | error e => exact R.pure _
  | ok _ =>
    dsimp only
    split
    · exact R.pure _
    · exact R.pure _

end effects

end Reading

end RecordRules

import RecordRules.Proofs.Engine.Settling
import RecordRules.Proofs.Value.Confined

/-!
# Defaults spare what is there

The handler for zero fields looks at a field when the walk gets to it, and by then other fields
have been assigned to.  But what has changed since the walk began lies in fields that were zero
and carry such an annotation (`Spares`), and nothing else of the value can have become zero.  So
the walk as a whole changes nothing but what is in such fields, however it ends.

The steps of handlers, and then the parts of the tour, each concern the place that the walk is
at: `Walk.Sparing` and `Tour.Sparing` say of the value what may be relied upon there.
-/

namespace RecordRules

open Value (Confined Walked)

/-- The field carries an annotation of a name. -/
def FieldInfo.Carries (info : FieldInfo) (name : String) : Prop :=
  ∃ pair ∈ annotationPairs info.tag, pair.name = name

/-- A field that a default may be assigned to: it carries one, and its value is zero. -/
def FieldInfo.Vacant (info : FieldInfo) (u : Value) : Prop :=
  info.Carries "default" ∧ u.isZero = true

/-- A vacant field of a type that takes literals. -/
def FieldInfo.Fillable (info : FieldInfo) (u : Value) : Prop :=
  info.Vacant u ∧ u.isCompound = false

theorem sparing_fillable : Value.Sparing FieldInfo.Fillable :=
  fun _ _ holds => ⟨holds.1.2, holds.2⟩

/-- For every name the engine has the stock handler for walks, or none where there is none. -/
def Engine.IsStock (e : Engine) : Prop :=
  ∀ name, e.registry.handlers.get? name = (new e.config).registry.handlers.get? name

theorem Engine.IsStock.congr {e e' : Engine} (stock : e.IsStock) (config : e'.config = e.config)
    (handlers : (e'.registryNamed .full).handlers = (e.registryNamed .full).handlers) :
    e'.IsStock := by
  intro name
  change (e'.registryNamed .full).handlers.get? name = _
  rw [handlers, config]
  exact stock name

/-- Work leaves the handlers for walks alone. -/
theorem lasting_isStock : Lasting Engine.IsStock where
  built _ stock := stock
  remember stock _ _ _ _ :=
    stock.congr (config_rememberArgument _ _ _ _) (handlers_rememberArgument _ _ _ _ _)

/-- So does reading an argument. -/
theorem Argued.isStock {s : WalkSetting} {h : Handler} {pair : Pair} {before after : Workspace}
    {result : Except Fatal Prepared} (argued : Argued s h pair before result after)
    (stock : before.engine.IsStock) : after.engine.IsStock := by
  refine stock.congr argued.config ?_
  cases argued with
  | known _ => rfl
  | malformed _ reads _ => rw [reads.registryNamed]
  | read _ reads _ =>
    exact (handlers_rememberArgument _ _ _ _ _).trans (by rw [reads.registryNamed])

/-- The stock handlers of annotations other than `set`. -/
theorem handler_of_isStock {e : Engine} (stock : e.IsStock) {name : String} (unset : name ≠ "set")
    {h : Handler} (handler : e.registry.handlers.get? name = some h) :
    h.Validates ∨ name = "default" ∧ h = .plain .defaults := by
  have handlers : (Engine.new e.config).registry.handlers =
      ((Engine.new e.config).validation.handlers.insert "default" (.plain .defaults)).insert "set"
        (.plain .assignment) := rfl
  rw [stock, handlers, Table.get?_insert, Table.get?_insert, if_neg unset.symm] at handler
  split at handler
  · next default =>
    cases handler
    exact .inr ⟨default.symm, rfl⟩
  · exact .inl (validates_of_validation e.config handler)

/-- Between two states, the value has changed in fillable fields only, and the engine has kept its
stock handlers. -/
structure WalkState.Spares (before after : WalkState) : Prop where
  stock : after.work.engine.IsStock
  confined : Confined FieldInfo.Fillable before.root after.root

theorem WalkState.Spares.trans {before between after : WalkState} (first : before.Spares between)
    (second : between.Spares after) : before.Spares after where
  stock := second.stock
  confined := sparing_fillable.trans first.confined second.confined

/-- Something about a value stays true when fillable fields change. -/
def Keeps (here there : Value → Prop) : Prop :=
  ∀ v v', here v → Confined FieldInfo.Fillable v v' → there v'

/-! ## Parts of a walk that leave the value alone -/

/-- Walks that leave the value alone, and the engine with its stock handlers. -/
def resting : MonadRelation Walk Walk where
  Rel x _ := ∀ state : WalkState, state.work.engine.IsStock →
    (x.run.run state).2.root = state.root ∧ (x.run.run state).2.work.engine.IsStock
  pure _ _ stock := ⟨rfl, stock⟩
  bind {α β x y f g} first second state stock := by
    obtain ⟨root, stock⟩ := first state stock
    rw [run_bind]
    generalize x.run.run state = after at root stock ⊢
    obtain ⟨result, between⟩ := after
    cases result with
    | error e => exact ⟨root, stock⟩
    | ok a =>
      obtain ⟨root', stock'⟩ := second a between stock
      exact ⟨root'.trans root, stock'⟩

section parts

variable {s : WalkSetting} {path : FieldPath} {here there : Value → Prop} {α β : Type}

theorem resting_throw (e : Fatal) : resting.Rel (throw e : Walk α) (throw e) :=
  fun _ stock => ⟨rfl, stock⟩

theorem resting_record (name : String) (e : Failure) :
    resting.Rel (Walk.record name e) (Walk.record name e) :=
  fun _ stock => ⟨rfl, stock⟩

theorem resting_argumentOf (h : Handler) (pair : Pair) :
    resting.Rel (Walk.argumentOf s h pair) (Walk.argumentOf s h pair) := by
  intro state stock
  obtain ⟨result, work, runs, argued⟩ := argumentOf_run s h pair state
  rw [runs]
  exact ⟨rfl, argued.isStock stock⟩

/-- Where nothing can be assigned, the handlers of all annotations leave the value alone. -/
theorem respects_resting {levels : Nat} (nested : s.nested = validateNestedWithin levels)
    (fixed : s.settable = false) (path : FieldPath) :
    Respects resting (fun _ => True) s path where
  get each state := each state trivial state
  throw := resting_throw
  argumentOf h pair := resting_argumentOf h pair
  validate validator value state _ := fun state' stock => by
    have journals := unjournaled_holding Engine.IsStock
    have alike := paired_nested journals
      (lasting_isStock.dispatches (serves_runHandler _ .validation)) levels
    rw [← nested] at alike
    have paired := paired_validator journals alike validator (some (s.outer.getD state.root)) value
    exact ⟨rfl, (kept_of_holding paired stock).2⟩
  note notes := fun _ stock => ⟨rfl, stock⟩
  record := resting_record path.name
  assign l := fun state stock => by
    rw [Walk.assign, fixed]
    exact ⟨rfl, stock⟩

/-! ## Parts of a walk that spare -/

/-- A part of a walk spares what is not fillable, if something holds of the value before. -/
def Walk.Sparing (here : Value → Prop) (x : Walk α) : Prop :=
  ∀ state : WalkState, state.work.engine.IsStock → here state.root →
    state.Spares (x.run.run state).2

theorem sparing_of_resting {x y : Walk α} (rests : resting.Rel x y) : x.Sparing here := by
  intro state stock _
  obtain ⟨root, stock⟩ := rests state stock
  exact ⟨stock, root.symm ▸ .same _⟩

theorem Walk.Sparing.bind {x : Walk α} {f : α → Walk β} (first : x.Sparing here)
    (second : ∀ a, (f a).Sparing there) (keeps : Keeps here there) :
    (x >>= f).Sparing here := by
  intro state stock holds
  have spares := first state stock holds
  rw [run_bind]
  generalize x.run.run state = after at spares ⊢
  obtain ⟨result, between⟩ := after
  cases result with
  | error e => exact spares
  | ok a => exact spares.trans (second a between spares.stock (keeps _ _ holds spares.confined))

/-- What holds before a part that leaves the value alone holds after it. -/
theorem sparing_after_resting {x y : Walk α} {f : α → Walk β} (rests : resting.Rel x y)
    (second : ∀ a, (f a).Sparing here) : (x >>= f).Sparing here := by
  intro state stock holds
  obtain ⟨root, kept⟩ := rests state stock
  rw [run_bind]
  generalize x.run.run state = after at root kept ⊢
  obtain ⟨result, between⟩ := after
  dsimp only at root kept
  cases result with
  | error e => exact ⟨kept, root ▸ .same _⟩
  | ok a =>
    have spares := second a between kept (root.symm ▸ holds)
    exact ⟨spares.stock, root ▸ spares.confined⟩

/-- Parts of a walk that may rely on the same about the value, one after the other. -/
def sparing (keeps : Keeps here here) : MonadRelation Walk Walk where
  Rel x _ := x.Sparing here
  pure _ _ stock _ := ⟨stock, .same _⟩
  bind first second := first.bind second keeps

/-- Of what a handler wants done, only the assignment concerns the value. -/
theorem sparing_react {reaction : Reaction}
    (assigns : ∀ l, reaction.assign = some l → (Walk.assign s path l).Sparing here) :
    (Walk.react s path reaction).Sparing here := by
  have notes : resting.Rel
      (Walk.work (modify fun w => { w with notes := reaction.notes.reverse ++ w.notes }))
      (pure ()) := fun _ stock => ⟨rfl, stock⟩
  have records := Walk.records_related resting (resting_record path.name) reaction.failures
  have verdict := Walk.verdict_related resting resting_throw reaction.verdict
  refine sparing_after_resting notes fun _ => ?_
  refine sparing_after_resting records fun _ => ?_
  cases assign : reaction.assign with
  | none => exact sparing_of_resting verdict
  | some l =>
    have ends : (liftM reaction.verdict : Walk Verdict).Sparing fun _ => True :=
      sparing_of_resting verdict
    exact (assigns l assign).bind (fun _ => ends) fun _ _ _ _ => trivial

/-! ## Handlers at a field -/

/-- The walk has got to a structure of a type. -/
def Arrived (path : FieldPath) (type : RecordType) (root : Value) : Prop :=
  ∃ fields, Walked path.steps root (.record type fields)

/-- A walk that has got to a structure does not lose it. -/
theorem keeps_arrived (path : FieldPath) (type : RecordType) :
    Keeps (Arrived path type) (Arrived path type) := by
  rintro v v' ⟨fields, walked⟩ confined
  obtain ⟨w', walked', inner⟩ := sparing_fillable.walked confined walked rfl
  cases inner with
  | same _ => exact ⟨fields, walked'⟩
  | @record _ _ fields' _ _ _ => exact ⟨fields', walked'⟩

variable {type : RecordType} {index : Nat} {info : FieldInfo}

/-- An assignment to a vacant field spares all others, whether it succeeds or not. -/
theorem sparing_assign (is : type.fields[index]? = some info) (exported : info.exported = true)
    (carries : info.Carries "default") (segment : String) (l : Literal) {root : Value}
    (arrived : Arrived path type root) {u : Value}
    (leads : root.resolve (path.pushField index segment).steps = some u) (zero : u.isZero = true) :
    (Walk.assign s (path.pushField index segment) l).Sparing (· = root) := by
  rintro state stock rfl
  obtain ⟨fields, walked⟩ := arrived
  rw [FieldPath.pushField, resolve_push, Value.resolve_of_walked walked] at leads
  obtain ⟨_, _, _, found⟩ := Value.fieldAt_eq_some_iff.mp leads
  have assigning := run_assigning s (path.pushField index segment) l state
  generalize (Walk.assign s (path.pushField index segment) l).run.run state = after at assigning ⊢
  cases assigning with
  | unsettable _ | unresolved _ => exact ⟨stock, .same _⟩
  | assigned changes =>
    refine ⟨stock, ?_⟩
    rw [FieldPath.pushField, steps_push] at changes
    refine Value.confined_update walked is exported changes fun t found' => ?_
    rw [found] at found'
    cases found'
    cases compound : u.isCompound with
    | true =>
      rw [Value.set_compound compound]
      exact .inr (.same u)
    | false => exact .inl ⟨⟨carries, zero⟩, compound⟩

/-- The handler for zero fields spares all others. -/
theorem sparing_defaults (is : type.fields[index]? = some info) (exported : info.exported = true)
    (carries : info.Carries "default") (segment : String) (argument : Prepared) :
    (Walk.runHandler s (path.pushField index segment) info (.plain .defaults) argument).Sparing
      (Arrived path type) := by
  intro state stock arrived
  rw [Walk.runHandler]
  cases argument.as? PlainHandler.defaults.sort with
  | none => exact ⟨stock, .same _⟩
  | some source =>
    rw [run_get]
    suffices spares : (Walk.react s (path.pushField index segment) _).Sparing (· = state.root) from
      spares state stock rfl
    refine sparing_react fun l assigns => ?_
    cases leads : state.root.resolve (path.pushField index segment).steps with
    | none => simp [PlainHandler.defaults, leads, FieldView.unresolved] at assigns
    | some u =>
      cases zero : u.isZero with
      | false => simp [PlainHandler.defaults, leads, zero] at assigns
      | true => exact sparing_assign is exported carries segment l arrived leads zero

/-- An annotation of a field, unless it is one that assigns whatever the field is. -/
theorem sparing_annotation (changing : s.Changing) (is : type.fields[index]? = some info)
    (exported : info.exported = true) (segment : String) {pair : Pair}
    (among : pair ∈ annotationPairs info.tag) (unset : pair.name ≠ "set") :
    (Walk.annotation Walk.runHandler s (path.pushField index segment) info pair).Sparing
      (Arrived path type) := by
  intro state stock arrived
  rw [Walk.annotation, run_get, changing.registry]
  cases handler : (state.work.engine.registryNamed .full).handlers.get? pair.name with
  | none => exact ⟨stock, .same _⟩
  | some h =>
    refine sparing_after_resting (resting_argumentOf h pair) (fun argument => ?_) state stock
      arrived
    rcases handler_of_isStock stock unset handler with validates | ⟨name, rfl⟩
    · rw [runHandler_validating _ _ _ validates]
      obtain ⟨levels, nested⟩ := changing.nested
      have respects :=
        respects_resting (s := s.validating) nested rfl (path.pushField index segment)
      exact sparing_of_resting (respects.runHandler info h argument)
    · exact sparing_defaults is exported ⟨pair, among, name⟩ segment argument

/-- The handlers of a field. -/
theorem sparing_dispatch (changing : s.Changing) (is : type.fields[index]? = some info)
    (exported : info.exported = true) (segment : String) (unset : ¬ info.Carries "set") :
    (Walk.dispatchBy Walk.runHandler s (path.pushField index segment) info
      (annotationPairs info.tag)).Sparing (Arrived path type) := by
  have each : ∀ pair ∈ annotationPairs info.tag, (sparing (keeps_arrived path type)).Rel
      (Walk.annotation Walk.runHandler s (path.pushField index segment) info pair)
      (Walk.annotation Walk.runHandler s (path.pushField index segment) info pair) := by
    intro pair among
    have unset : pair.name ≠ "set" := fun name => unset ⟨pair, among, name⟩
    exact sparing_annotation changing is exported segment among unset
  exact Walk.dispatchBy_related _ each

end parts

/-! ## Tours that spare -/

/-- No annotation at the stop assigns whatever the field is. -/
def Stop.Unset (stop : Stop) : Prop :=
  ∀ info, stop.field = some info → ¬ info.Carries "set"

/-- A part of a tour spares what is not fillable, if something holds of the value before and no
annotation at its stops assigns whatever the field is. -/
def Tour.Sparing {α : Type} (here : Value → Prop) (x : Tour WalkState α) : Prop :=
  ∀ state : WalkState, state.work.engine.IsStock → here state.root →
    (∀ stop ∈ (x state).stops, stop.Unset) → state.Spares (x state).state

section tours

variable {here there : Value → Prop} {α β : Type}

theorem Tour.Sparing.bind {x : Tour WalkState α} {f : α → Tour WalkState β} (first : x.Sparing here)
    (second : ∀ a, (f a).Sparing there) (keeps : Keeps here there) : (x >>= f).Sparing here := by
  intro state stock holds unset
  have spares := first state stock holds
  rw [Tour.bind_apply] at unset ⊢
  generalize x state = trip at spares unset ⊢
  obtain ⟨result, between, stops⟩ := trip
  cases result with
  | error e => exact spares unset
  | ok a =>
    rw [List.forall_mem_append] at unset
    have spares := spares unset.1
    exact spares.trans
      (second a between spares.stock (keeps _ _ holds spares.confined) unset.2)

theorem Tour.Sparing.weaken {x : Tour WalkState α} (sparing : x.Sparing there)
    (weaker : ∀ v, here v → there v) : x.Sparing here :=
  fun state stock holds unset => sparing state stock (weaker _ holds) unset

theorem Tour.sparing_pure (a : α) : (pure a : Tour WalkState α).Sparing here :=
  fun _ stock _ _ => ⟨stock, .same _⟩

theorem Tour.sparing_lift {x : Walk α} (sparing : x.Sparing here) : (Tour.lift x).Sparing here :=
  fun state stock holds _ => sparing state stock holds

theorem Tour.sparing_stop {x : Walk α} (path : FieldPath) (field : Option FieldInfo)
    (sparing : Stop.Unset ⟨path, field⟩ → x.Sparing here) :
    (do .stop path field; .lift x : Tour WalkState α).Sparing here := by
  intro state stock holds unset
  exact sparing (unset _ List.mem_cons_self) state stock holds

/-- What comes after looking may rely on what was seen. -/
theorem sparing_look {s : WalkSetting} {path : FieldPath} {f : Option Value → Tour WalkState α}
    (next : ∀ value, (f value).Sparing fun root => here root ∧ root.resolve path.steps = value) :
    ((Walk.tour s).look path >>= f).Sparing here :=
  fun state stock holds unset =>
    next (state.root.resolve path.steps) state stock ⟨holds, rfl⟩ unset

end tours

/-- A walk has got to whatever is at a path. -/
def Clear (path : FieldPath) (root : Value) : Prop :=
  ∀ u, root.resolve path.steps = some u → Walked path.steps root u

section descends

variable {s : WalkSetting} {path : FieldPath} {type : RecordType}
  {into : FieldPath → Tour WalkState Unit}

theorem clear_push {root u : Value} (walked : Walked path.steps root u) {step : Step}
    (exports : u.Exports step) (addition : String) : Clear (path.push step addition) root := by
  intro w leads
  rw [resolve_push, Value.resolve_of_walked walked, Option.bind_some] at leads
  rw [steps_push]
  exact walked.push (Value.leads_of_follow leads) exports

theorem clear_field {root : Value} (arrived : Arrived path type root) {index : Nat}
    {info : FieldInfo} (is : type.fields[index]? = some info) (exported : info.exported = true)
    (segment : String) : Clear (path.pushField index segment) root := by
  obtain ⟨fields, walked⟩ := arrived
  refine clear_push walked ?_ _
  rintro _ _ _ _ ⟨⟩ ⟨⟩ is'
  rw [is] at is'
  exact Option.some.inj is' ▸ exported

theorem sparing_attend (changing : s.Changing) {index : Nat} {info : FieldInfo}
    (is : type.fields[index]? = some info) (exported : info.exported = true) (segment : String) :
    ((Walk.tour s).attend (path.pushField index segment) info).Sparing (Arrived path type) :=
  Tour.sparing_stop _ (some info) fun unset =>
    sparing_dispatch changing is exported segment (unset info rfl)

/-- Going through the fields of a structure. -/
theorem sparing_fields (changing : s.Changing) (clear : ∀ path, (into path).Sparing (Clear path))
    (infos : List FieldInfo) (index : Nat) (are : type.fields.drop index = infos) :
    ((Walk.tour s).fields into path index infos).Sparing (Arrived path type) := by
  have keeps := keeps_arrived path type
  induction infos generalizing index with
  | nil => exact Tour.sparing_pure _
  | cons info infos ih =>
    have is : type.fields[index]? = some info := by
      rw [← List.head?_drop, are]
      rfl
    have rest := ih (index + 1) (by rw [← List.tail_drop, are]; rfl)
    rw [Conduct.fields]
    split
    · next exported =>
      have config : ((Walk.tour s).config).Sparing (Arrived path type) :=
        Tour.sparing_lift fun _ stock _ => ⟨stock, .same _⟩
      refine config.bind (fun config => ?_) keeps
      generalize Walk.segment config info = segment
      refine (sparing_attend changing is exported segment).bind (fun verdict => ?_) keeps
      split
      · have inside := (clear (path.pushField index segment)).weaken fun root arrived =>
          clear_field arrived is exported segment
        exact inside.bind (fun _ => rest) keeps
      · exact rest
    · exact rest

/-- The walk has got to a sequence. -/
def Listed (path : FieldPath) (root : Value) : Prop :=
  ∃ items, Walked path.steps root (.seq items)

theorem keeps_listed (path : FieldPath) : Keeps (Listed path) (Listed path) := by
  rintro v v' ⟨items, walked⟩ confined
  obtain ⟨w', walked', inner⟩ := sparing_fillable.walked confined walked rfl
  cases inner with
  | same _ => exact ⟨items, walked'⟩
  | @seq _ items' _ _ => exact ⟨items', walked'⟩

/-- The walk has got to a sequence, or it is inside of a document, where there are no structures. -/
inductive Enumerable (path : FieldPath) (root : Value) : Prop
  | listed : Listed path root → Enumerable path root
  | document {j : Json} : root.resolve path.steps = some (.json j) → Enumerable path root

/-- Where there is a structure among the elements, the walk has got to a sequence, and it gets to
the structure. -/
theorem clear_item {root v : Value} (enumerable : Enumerable path root) {index : Nat}
    (leads : root.resolve (path.pushIndex index).steps = some v) {fields : List Value}
    (is : v.indirect = .record type fields) :
    Clear (path.pushIndex index) root ∧ Listed path root := by
  cases enumerable with
  | listed listed =>
    obtain ⟨items, walked⟩ := listed
    have exports : (Value.seq items).Exports (.index index) := Value.exports_of_ne nofun
    exact ⟨clear_push walked exports _, items, walked⟩
  | document inside =>
    rw [FieldPath.pushIndex, resolve_push, inside, Option.bind_some] at leads
    cases Value.leads_of_follow leads with
    | document _ => cases is

/-- Going through the elements of a sequence. -/
theorem sparing_items (clear : ∀ path, (into path).Sparing (Clear path)) (path : FieldPath)
    (indices : List Nat) :
    ((Walk.tour s).items into path indices).Sparing (Enumerable path) := by
  induction indices with
  | nil => exact Tour.sparing_pure _
  | cons index indices ih =>
    refine sparing_look fun value => ?_
    split
    · next type fields is =>
      obtain ⟨v, rfl, inner⟩ := Option.map_eq_some_iff.mp is
      have inside : (into (path.pushIndex index)).Sparing fun root =>
          Clear (path.pushIndex index) root ∧ Listed path root :=
        (clear (path.pushIndex index)).weaken fun _ holds => holds.1
      have both := inside.bind (fun _ => ih) fun _ _ holds confined =>
        .listed (keeps_listed path _ _ holds.2 confined)
      exact both.weaken fun root holds => clear_item holds.1 holds.2 inner
    · exact ih.weaken fun _ holds => holds.1

/-- Only a sequence or a document looks like a sequence. -/
theorem seq_or_document {v : Value} {items : List Value} (looks : v.view = .seq items) :
    v = .seq items ∨ ∃ j, v = .json j := by
  cases v with
  | seq _ =>
    cases looks
    exact .inl rfl
  | json j => exact .inr ⟨j, rfl⟩
  | integer t n =>
    rw [Value.view, View.ofInteger] at looks
    split at looks <;> cases looks
  | bool _ | single _ | double _ | text _ | fixedText _ | absent _ | present _ _ | boxed _
  | map _ | record _ _ | entry _ _ => cases looks

/-- A walk of what is at a path. -/
theorem sparing_descend (changing : s.Changing) (levels : Nat) (path : FieldPath) :
    ((Walk.tour s).descend levels path).Sparing (Clear path) := by
  induction levels generalizing path with
  | zero => exact Tour.sparing_pure _
  | succ levels ih =>
    refine sparing_look fun value => ?_
    split
    · next type values is =>
      obtain ⟨v, rfl, view⟩ := Option.map_eq_some_iff.mp is
      cases Value.eq_record_of_view view
      have keeps := keeps_arrived path type
      obtain ⟨nestings, nested⟩ := changing.nested
      have respects := respects_resting (s := s.validating) nested rfl path
      have count : (Tour.lift Walk.count).Sparing (Arrived path type) :=
        Tour.sparing_lift fun _ stock _ => ⟨stock, .same _⟩
      have own : ∀ before, (do .stop path none; .lift (Walk.selfValidate s path before) :
          Tour WalkState Unit).Sparing (Arrived path type) := fun before =>
        Tour.sparing_stop path none fun _ => sparing_of_resting (respects.selfValidate before)
      have fields : (Conduct.fields (Walk.tour s) _ path 0 type.fields).Sparing _ :=
        sparing_fields changing ih type.fields 0 rfl
      have all := count.bind (fun before => fields.bind (fun _ => own before) keeps) keeps
      exact all.weaken fun root holds => ⟨values, holds.1 _ holds.2⟩
    · next target is =>
      obtain ⟨v, rfl, -⟩ := Option.map_eq_some_iff.mp is
      have exports : v.Exports .deref := Value.exports_of_ne nofun
      exact (ih path.pushDeref).weaken fun root holds => clear_push (holds.1 _ holds.2) exports _
    · next items is =>
      obtain ⟨v, rfl, view⟩ := Option.map_eq_some_iff.mp is
      refine (sparing_items ih path _).weaken fun root holds => ?_
      rcases seq_or_document view with rfl | ⟨j, rfl⟩
      · exact .listed ⟨items, holds.1 _ holds.2⟩
      · exact .document holds.2
    · exact Tour.sparing_pure _

end descends

/-- However a walk that may change the value ends, with an engine that runs the stock handlers and
whatever it remembers: if no annotation at its stops is `set`, then the value has changed in
nothing but exported fields that carry a `default` and were zero before the walk.

So steps that lead neither into such a field nor to something around one lead to what they led
to before, if to anything. -/
theorem defaults_spare (w : Workspace) (v : Value) (stock : w.engine.IsStock) :
    let stops := (Engine.tourWith .full true w.engine.config.selfValidate none v w).stops
    let result := ((Engine.walk true v).run w).1
    (∀ stop ∈ stops, stop.Unset) →
      v.Confined FieldInfo.Vacant result.root ∧
        ∀ steps, (∀ rest, ¬ v.Within FieldInfo.Vacant (steps ++ rest)) →
          result.root.resolve steps = v.resolve steps := by
  intro stops result unset
  let s : WalkSetting :=
    { registry := .full, settable := true, outer := none,
      selfValidate := w.engine.config.selfValidate, nested := validateNestedWithin v.depth }
  have changing : s.Changing := ⟨rfl, rfl, rfl, _, rfl⟩
  have clear : Clear .root v := by
    rintro _ ⟨⟩
    exact .here v
  have spares := sparing_descend changing v.depth .root { work := w, root := v } stock clear unset
  have confined : v.Confined FieldInfo.Vacant result.root := by
    rw [show result = _ from congrArg Prod.fst (run_walk true v w)]
    exact spares.confined.mono fun _ _ holds => holds.1
  exact ⟨confined, fun _ => confined.resolve_eq⟩

/-- A walk that fills two fields, one of them in a list and one with a copy, and ends early at a
third. -/
theorem defaults_spare_of_list :
    let leaf : RecordType :=
      { name := "Leaf"
        fields := [{ name := "size", tag := "default:\"3\"" },
          { name := "seal", tag := "default:\"9\"", exported := false }] }
    let tree : RecordType :=
      { name := "Tree"
        fields := [{ name := "title", tag := "default:\".author\"" }, { name := "author" },
          { name := "leaves", tag := "walk:\"true\"" },
          { name := "count", tag := "default:\"many\"" },
          { name := "note", tag := "default:\"x\"" }] }
    let size (n : IntType.uint8.Number) : Value := .integer .uint8 n
    let leaves : List Value :=
      [.record leaf [size ⟨0, by decide⟩, size ⟨0, by decide⟩],
        .record leaf [size ⟨5, by decide⟩, size ⟨0, by decide⟩]]
    let v : Value :=
      .record tree [.text "", .text "Ann", .seq leaves, size ⟨0, by decide⟩, .absent ⟨.text, []⟩]
    let w : Workspace := { engine := .new {} }
    let stops := (Engine.tourWith .full true w.engine.config.selfValidate none v w).stops
    let result := ((Engine.walk true v).run w).1
    w.engine.IsStock ∧ (∀ stop ∈ stops, stop.Unset) ∧
      result.outcome = .error (.assignment "count" (.mismatch (.str "many") "u8")) ∧
      (result.root.resolve [.field 0]).bind Value.literal? = some (.str "Ann") ∧
      (result.root.resolve [.field 2, .index 0, .field 0]).bind Value.literal? = some (.uint 3) ∧
      (result.root.resolve [.field 2, .index 0, .field 1]).bind Value.literal? = some (.uint 0) ∧
      v.Confined FieldInfo.Vacant result.root ∧
      ∀ steps, (∀ rest, ¬ v.Within FieldInfo.Vacant (steps ++ rest)) →
        result.root.resolve steps = v.resolve steps := by
  intro leaf tree size leaves v w stops result
  have stock : w.engine.IsStock := fun _ => rfl
  have unset : ∀ stop ∈ stops, stop.Unset := by
    have names : ∀ stop ∈ stops, ∀ info ∈ stop.field, ∀ pair ∈ annotationPairs info.tag,
        pair.name ≠ "set" := by
      decide +kernel
    rintro stop mem info field ⟨pair, among, name⟩
    exact names stop mem info field pair among name
  exact ⟨stock, unset, by decide +kernel, by decide +kernel, by decide +kernel, by decide +kernel,
    defaults_spare w v stock unset⟩

end RecordRules

import RecordRules.Proofs.Engine.Calling
import RecordRules.Proofs.Engine.Delegating
import RecordRules.Proofs.Engine.Refinement

/-!
# Two ways to validate a nested structure

Validating a structure gives the same result whether the structures in its fields are
walked into or have validators of their own, unless an error ends the validation by one
of these: then the error is a failure of the field, and which field that is depends on
who was asked.
-/

namespace RecordRules

/-! ## Standard engines -/

/-- An engine with the default configuration whose rule `structure` is the standard one, and whose
functions and symbols give tame validators. -/
structure Setup.Standard (s : Setup) : Prop where
  config : s.config = {}
  nested : s.functions.get? "structure" = some (.constant "structure" .nested)
  tame : s.book.Tame

theorem reading_standard {s : Setup} (standard : s.Standard) : s.reading.Standard where
  config := standard.config
  nested := by
    rw [meaning_of_name (by decide), Rulebook.named,
      show s.book.functions = s.functions from rfl, standard.nested]
    rfl
  tame rule w means := by
    change (s.book.compile 0 rule).map Handle.validator = .ok w at means
    cases compiled : s.book.compile 0 rule with
    | error e =>
      rw [compiled] at means
      cases means
    | ok handle =>
      rw [compiled] at means
      cases means
      exact tame_compile standard.tame compiled

/-- The engine with the standard rulebook is standard. -/
theorem standard_setup :
    Setup.Standard { config := {}, functions := Rulebook.standard.functions, symbols := {} } where
  config := rfl
  nested := rfl
  tame := {
    functions := fun _ f known => Function.tame_standard f (mem_standard known).1
    symbols := fun _ _ known => by cases known }

theorem named_of_regular {v : Value} (regular : v.EveryType RecordType.Regular) : v.Named {} :=
  Value.everyType_mono (fun _ regular => regular.named) regular

/-- What an inspection without a journal makes certain is what validation gives. -/
theorem validateStruct_of_settling {s : Setup} {effects : Reading.Effects (Except Fatal)}
    (settles : Reading.EffectsRelated settling effects journal) {v : Value}
    (named : v.Named s.config) {result : Except Refusal Unit}
    (inspects : s.reading.inspect effects v = .ok result) (requests : List Request) :
    let w := ((Request.performAll requests).run { engine := s.engine }).2
    ((Engine.validateStruct v).run w).1 = result := by
  intro w
  have refines := congrArg Prod.fst (validateStruct_eq_inspect s requests named)
  exact refines.symm.trans (Reading.inspect_related s.reading settles v result inspects _)

/-! ## Delegation -/

/-- Whatever engines have been asked before, validating a structure gives the same failures at the
same places if some of its fields are delegated, unless it ends with a fatal error or an error ends
the validation of a structure by a validator. -/
theorem validateStruct_of_delegates {s : Setup} (standard : s.Standard) {v v' : Value}
    (delegates : v.Delegates v') (regular : v.EveryType RecordType.Regular)
    (uninterrupted : s.reading.Uninterrupted v) (requests requests' : List Request) :
    let w := ((Request.performAll requests).run { engine := s.engine }).2
    let w' := ((Request.performAll requests').run { engine := s.engine }).2
    let result := ((Engine.validateStruct v).run w).1
    (∀ e, result ≠ .error (.fatal e)) → ((Engine.validateStruct v').run w').1 = result := by
  intro w w' result passes
  have regular' := Value.everyType_of_delegates Value.lasting_regular delegates regular
  have named : v.Named s.config := standard.config ▸ named_of_regular regular
  have named' : v'.Named s.config := standard.config ▸ named_of_regular regular'
  obtain ⟨found, strictly⟩ := uninterrupted
  have is : result = found := validateStruct_of_settling settling_strict named strictly requests
  rw [is] at passes ⊢
  have strictly' :=
    inspect_of_delegates (reading_standard standard) delegates regular strictly passes
  exact validateStruct_of_settling settling_strict named' strictly' requests'

/-! ## Structures of one field -/

/-- A structure with one field. -/
def Value.around (info : FieldInfo) (v : Value) : Value :=
  .record { name := "Around", fields := [info] } [v]

section around

variable {name : String} {v : Value}

theorem segment_untagged (name : String) : Walk.segment {} { name } = name := by
  rw [Walk.segment, Option.bind_some, FieldInfo.lookup, annotationPairs_empty]
  rfl

theorem delegable_untagged {type : RecordType} {values : List Value}
    (leads : v.indirect = .record type values) : FieldInfo.Delegable { name } v where
  exported := rfl
  shown := by simp
  free pair mem := by
    rw [annotationPairs_empty] at mem
    cases mem
  structured := .inl ⟨type, values, leads⟩

theorem regular_around {info : FieldInfo} (segment : Walk.segment {} info = name)
    (named : name ≠ "") (noIndex : name.toList.head? ≠ some '[')
    (regular : v.EveryType RecordType.Regular) :
    (Value.around info v).EveryType RecordType.Regular := by
  have type : RecordType.Regular { name := "Around", fields := [info] } := by
    refine ⟨?_, ?_, fun _ _ _ own => by cases own⟩
    · simpa [segment] using named
    · simpa [segment] using noIndex
  simp [Value.around, Value.EveryType, Value.EveryTypeIn, type, regular]

theorem delegates_around {info : FieldInfo} {v' : Value} (delegates : v.Delegates v') :
    (Value.around info v).Delegates (.around info v') := by
  have fields : Value.DelegatesFields [info] [v] [info] [v'] := .keep delegates (.absent [])
  exact @Value.Delegates.record { name := "Around", fields := [info] } _ _ _ fields

theorem delegates_around_of_delegable {info : FieldInfo} {v' : Value}
    (delegable : info.Delegable v) (delegates : v.Delegates v') :
    (Value.around info v).Delegates (.around info.delegated v') := by
  have fields : Value.DelegatesFields [info] [v] [info.delegated] [v'] :=
    .delegate delegable delegates (.absent [])
  exact @Value.Delegates.record { name := "Around", fields := [info] } _ _ _ fields

variable {reading : Reading} {r : Validator.Runner (Except Fatal)} {root : Value}
  {recorded : List (String × Failure)}

theorem content_around {info : FieldInfo} {result : Except Fatal Unit}
    (runs : (reading.field r root (Walk.segment reading.config info) info (info.shown v)
      (reading.content r root true (Walk.segment reading.config info) v)).run =
        .ok ⟨recorded, result⟩) :
    (reading.content r root false "" (.around info v)).run = .ok ⟨recorded, result⟩ := by
  have found : (reading.fields r root "" [info] [v]).run = .ok ⟨recorded, result⟩ := by
    rw [Reading.fields]
    cases result with
    | error e => exact Inspect.bind_run_error runs
    | ok _ =>
      refine Inspect.bind_run_ok.mpr ⟨recorded, (), [], runs, ?_, (List.append_nil _).symm⟩
      rw [Reading.fields]
      rfl
  rw [Value.around, Reading.content]
  cases result with
  | error e =>
    apply Inspect.bind_run_error
    exact bind_eq_ok_iff.mpr ⟨_, found, rfl⟩
  | ok _ =>
    refine Inspect.bind_run_ok.mpr
      ⟨recorded, recorded.isEmpty, [], ?_, rfl, (List.append_nil _).symm⟩
    exact Inspect.clean_run_ok.mpr ⟨found, rfl⟩

end around

/-- A field that holds a structure which refuses itself, walked into and delegated. -/
theorem validateStruct_of_delegates_of_refusal :
    let refusal : Failure := { code := "never", message := "never" }
    let leaf : RecordType :=
      { name := "Leaf", fields := [], selfCheck := some fun _ => .error refusal }
    let info : FieldInfo := { name := "leaf" }
    let v : Value := .around info (.record leaf [])
    let v' : Value := .around info.delegated (.record leaf [])
    let s : Setup := { config := {}, functions := Rulebook.standard.functions, symbols := {} }
    let w := ((Request.performAll [.validateStruct v]).run { engine := s.engine }).2
    let w' := ((Request.performAll [.build "zero"]).run { engine := s.engine }).2
    let result := ((Engine.validateStruct v).run w).1
    s.Standard ∧ v.Delegates v' ∧ v.EveryType RecordType.Regular ∧ s.reading.Uninterrupted v ∧
      (∀ e, result ≠ .error (.fatal e)) ∧ ((Engine.validateStruct v').run w').1 = result := by
  intro refusal leaf info v v' s w w' result
  have standard : s.Standard := standard_setup
  have delegable : info.Delegable (.record leaf []) := delegable_untagged rfl
  have delegates : v.Delegates v' :=
    delegates_around_of_delegable delegable (Value.delegates_refl _)
  have refuses : leaf.Regular := by
    refine ⟨?_, ?_, ?_⟩
    · intro _ mem
      cases mem
    · intro _ mem
      cases mem
    · intro check _ e own fails
      cases own
      cases fails
      rfl
  have regular : v.EveryType RecordType.Regular :=
    regular_around (segment_untagged "leaf") (by decide) (by decide)
      (by simp [Value.EveryType, Value.EveryTypeIn, refuses])
  have inspected : (s.reading.content (s.reading.runner strict) v false "" v).run =
      .ok ⟨[("leaf", refusal)], .ok ()⟩ := by
    apply content_around
    rw [field_of_delegable rfl _ delegable, show s.reading.config = {} from rfl,
      segment_untagged, Reading.content, Reading.fields]
    rfl
  have strictly : s.reading.inspect strict v =
      .ok (.error (.fields (Failures.collect [("leaf", refusal)]))) :=
    bind_eq_ok_iff.mpr ⟨_, inspected, rfl⟩
  have passes : ∀ e, result ≠ .error (.fatal e) := by
    intro e fatal
    have is : result = _ :=
      validateStruct_of_settling settling_strict (named_of_regular regular) strictly _
    rw [is] at fatal
    cases fatal
  exact ⟨standard, delegates, regular, ⟨_, strictly⟩, passes,
    validateStruct_of_delegates standard delegates regular ⟨_, strictly⟩ [.validateStruct v]
      [.build "zero"] passes⟩

/-! ## Interrupted validators -/

/-- A structure with a rule that names nothing. -/
def unruly : Value :=
  .around { name := "x", tag := "validate:\"nosuch\"" } (.text "")

/-- The error of the rule. -/
def unknownRule : Fatal :=
  .malformed "validate" "nosuch" (.rule (.unknown "nosuch"))

/-- The failure that a validator makes of the error. -/
def unknownFailure : Failure where
  code := unknownRule.code
  message := unknownRule.message

theorem annotationPairs_nosuch :
    annotationPairs "validate:\"nosuch\"" = [⟨"validate", "\"nosuch\"", "nosuch"⟩] := by
  apply annotationPairs_single
  have text : "validate:\"nosuch\"".toList = ['v', 'a', 'l', 'i', 'd', 'a', 't', 'e', ':', '"',
      'n', 'o', 's', 'u', 'c', 'h', '"'] := rfl
  rw [text]
  simp [Pair.read?, List.takeWhile, List.dropWhile, isEntryNameChar, closingQuote]
  decide

theorem segment_nosuch : Walk.segment {} { name := "x", tag := "validate:\"nosuch\"" } = "x" := by
  rw [Walk.segment, Option.bind_some, FieldInfo.lookup, annotationPairs_nosuch]
  rfl

section interrupted

variable {reading : Reading}

theorem field_nosuch (config : reading.config = {})
    (unknown : reading.meaning "nosuch" = .error (.unknown "nosuch"))
    (r : Validator.Runner (Except Fatal)) (root : Value) (path : String) (value : Option Value)
    (enter : Inspect (Except Fatal) Unit) :
    (reading.field r root path { name := "x", tag := "validate:\"nosuch\"" } value enter).run =
      .ok ⟨[], .error unknownRule⟩ := by
  have first : (reading.followPair r root path value
      ⟨"validate", "\"nosuch\"", "nosuch"⟩).run = .ok ⟨[], .error unknownRule⟩ := by
    rw [Reading.followPair, config, if_neg (by decide), if_pos rfl, unknown]
    rfl
  rw [Reading.field, if_pos rfl, annotationPairs_nosuch, Reading.follow]
  exact Inspect.bind_run_error (Inspect.bind_run_error first)

theorem content_unruly (config : reading.config = {})
    (unknown : reading.meaning "nosuch" = .error (.unknown "nosuch"))
    (r : Validator.Runner (Except Fatal)) (root : Value) (inner : Bool) (path : String) :
    (reading.content r root inner path unruly).run = .ok ⟨[], .error unknownRule⟩ := by
  have found : (reading.fields r root path
      [{ name := "x", tag := "validate:\"nosuch\"" }] [.text ""]).run =
        .ok ⟨[], .error unknownRule⟩ := by
    rw [Reading.fields]
    exact Inspect.bind_run_error (field_nosuch config unknown r root _ _ _)
  rw [unruly, Value.around, Reading.content]
  apply Inspect.bind_run_error
  exact bind_eq_ok_iff.mpr ⟨_, found, rfl⟩

/-- The validator of a structure makes a failure of the error that ends it. -/
theorem nested_around_interrupted {info : FieldInfo} {v : Value} {outer : Option Value}
    (ends : ∀ root, (reading.content (reading.runner lenient) root false "" (.around info v)).run =
      .ok ⟨[], .error unknownRule⟩) :
    reading.nested lenient outer (.around info v) = .ok (.error unknownFailure) := by
  rw [Value.around, Reading.nested_record reading lenient rfl, Reading.alone]
  exact bind_eq_ok_iff.mpr ⟨_, ends _, rfl⟩

theorem inspect_around {info : FieldInfo} {v : Value} {e : Failure}
    (standard : reading.Standard) (delegable : info.Delegable v) (solid : Failures.Solid e)
    (nested : ∀ root, reading.nested lenient (some root) v = .ok (.error e)) :
    reading.inspect lenient (.around info.delegated v) =
      .ok (.error (.fields (Failures.collect [(Walk.segment {} info, e)]))) := by
  have runs : (reading.content (reading.runner lenient) (.around info.delegated v) false ""
      (.around info.delegated v)).run = .ok ⟨[(Walk.segment {} info, e)], .ok ()⟩ := by
    have asked : (reading.runner lenient).nested (some (.around info.delegated v)) v =
      .ok (.error e) := nested _
    apply content_around
    rw [standard.config, info.segment_delegated]
    exact field_delegated standard _ delegable asked _
  have some : (Failures.collect [(Walk.segment {} info, e)]).size ≠ 0 :=
    Failures.size_collect (List.cons_ne_nil _ _) (by simpa using solid)
  refine bind_eq_ok_iff.mpr ⟨_, runs, ?_⟩
  dsimp only
  rw [if_neg some]
  rfl

end interrupted

/-- A structure with a rule that names nothing, in a structure that has a validator.  The validator
makes a failure of the error.  If the structure inside is delegated too, its own validator does
so, and the failure is found elsewhere. -/
theorem validateStruct_interrupted :
    let f : FieldInfo := { name := "f" }
    let g : FieldInfo := { name := "g" }
    let v : Value := .around f.delegated (.around g unruly)
    let v' : Value := .around f.delegated (.around g.delegated unruly)
    let s : Setup := { config := {}, functions := Rulebook.standard.functions, symbols := {} }
    let result (v : Value) := ((Engine.validateStruct v).run { engine := s.engine }).1
    s.Standard ∧ v.Delegates v' ∧ v.EveryType RecordType.Regular ∧
      ∃ failures failures', result v = .error (.fields failures) ∧ failures.keys = ["f"] ∧
        result v' = .error (.fields failures') ∧ failures'.keys = ["f.g"] := by
  intro f g v v' s result
  have standard : s.Standard := standard_setup
  have reads := reading_standard standard
  have unknown : s.reading.meaning "nosuch" = .error (.unknown "nosuch") :=
    (meaning_of_name (by decide)).trans rfl
  have below : g.Delegable unruly := delegable_untagged rfl
  have regular : (Value.around g unruly).EveryType RecordType.Regular := by
    apply regular_around (segment_untagged "g") (by decide) (by decide)
    exact regular_around segment_nosuch (by decide) (by decide) trivial
  have delegates : (Value.around g unruly).Delegates (.around g.delegated unruly) :=
    delegates_around_of_delegable below (delegates_around (.text ""))
  have around : ∀ info : FieldInfo, f.Delegable (.around info unruly) :=
    fun info => delegable_untagged rfl
  have plain : ∀ outer, s.reading.nested lenient outer (.around g unruly) =
      .ok (.error unknownFailure) := by
    refine fun outer => nested_around_interrupted fun root => content_around ?_
    rw [field_of_delegable rfl _ below]
    exact content_unruly rfl unknown _ _ _ _
  have leaf : ∀ outer, s.reading.nested lenient outer unruly = .ok (.error unknownFailure) :=
    fun outer => nested_around_interrupted fun root => content_unruly rfl unknown _ _ _ _
  have delegated : ∀ root, s.reading.nested lenient (some root) (.around g.delegated unruly) =
      .ok (.error (.nested (Failures.collect [("g", unknownFailure)]))) := by
    intro root
    have asked : (s.reading.runner lenient).nested (some root) unruly =
      .ok (.error unknownFailure) := leaf _
    have runs : (s.reading.content (s.reading.runner lenient) root false ""
        (.around g.delegated unruly)).run = .ok ⟨[("g", unknownFailure)], .ok ()⟩ := by
      apply content_around
      rw [reads.config, g.segment_delegated, segment_untagged]
      exact field_delegated reads _ below asked _
    rw [Value.around, Reading.nested_record _ lenient rfl, Reading.alone]
    exact bind_eq_ok_iff.mpr ⟨_, runs, rfl⟩
  have inspects := inspect_around reads (around g) (Failures.solid_of_none rfl) fun root =>
    plain (some root)
  have inspects' := inspect_around reads (around g.delegated)
    (Failures.solid_nested (by decide)) delegated
  rw [segment_untagged] at inspects inspects'
  have tree : (Value.around f.delegated (.around g unruly)).EveryType RecordType.Regular :=
    regular_around (f.segment_delegated.trans (segment_untagged "f")) (by decide) (by decide)
      regular
  have delegatesTree : v.Delegates v' := delegates_around delegates
  have tree' := Value.everyType_of_delegates Value.lasting_regular delegatesTree tree
  refine ⟨standard, delegatesTree, tree, Failures.collect [("f", unknownFailure)],
    Failures.collect [("f", .nested (Failures.collect [("g", unknownFailure)]))], ?_, rfl, ?_, rfl⟩
  · exact validateStruct_of_settling settling_lenient (named_of_regular tree) inspects []
  · exact validateStruct_of_settling settling_lenient (named_of_regular tree') inspects' []

end RecordRules

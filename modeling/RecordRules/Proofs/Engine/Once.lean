import RecordRules.Proofs.Engine.Calling
import RecordRules.Proofs.Engine.Deeds
import RecordRules.Proofs.Engine.Keeping
import RecordRules.Proofs.Rulebook.Inheriting
import RecordRules.Proofs.Value.Locating

/-!
# Nothing is validated twice

The walk does not go into a field whose validator descends, and a validator descends exactly
when one of its leaves goes into nested structures.  So as long as the rule of a field has at
most one such leaf, and the field at most one rule, whatever is in the field is validated by one
of the two at most.
-/

namespace RecordRules

/-! ## Simple rules -/

/-- A name stands for a standard function if it stands for a function, and what it stands for as a
symbol negates nothing. -/
structure Setup.BuiltIn (s : Setup) (name : String) : Prop where
  function : ∀ f, s.functions.get? name = some f → f ∈ Function.standard
  symbol : ∀ handle, s.symbols.get? name = some (.rule handle) → handle.validator.positive

/-- A rule that is made of what is built in, with at most one leaf that goes into nested
structures, those in the validators of symbols included. -/
structure Setup.Simple (s : Setup) (text : String) : Prop where
  builtIn : ∀ rule, Expr.parse text = .ok rule → ∀ name ∈ rule.names, s.BuiltIn name
  leaves : ∀ w, s.reading.meaning text = .ok w → w.leaves ≤ 1

/-- The rules that the annotations of a field give. -/
def Config.rules (config : Config) (info : FieldInfo) : List String :=
  ((annotationPairs info.tag).filter (·.name = config.validateTag)).map Pair.value

/-- Every field of a structure type has at most one rule, a simple one. -/
def Setup.Modest (s : Setup) (type : RecordType) : Prop :=
  ∀ info ∈ type.fields, (s.config.rules info).length ≤ 1 ∧
    ∀ text ∈ s.config.rules info, s.Simple text

/-- With the standard functions alone, all names stand for what is built in. -/
theorem builtIn_standard (config : Config) (name : String) :
    (Setup.standard config).BuiltIn name where
  function _ known := (mem_standard known).1
  symbol _ known := by cases known

theorem combines_positive : Combines fun w => w.positive where
  all ws positive := by
    rw [Validator.positive]
    exact Validator.allPositive_iff.mpr positive
  any ws positive := by
    rw [Validator.positive]
    exact Validator.allPositive_iff.mpr positive

/-- What is made of standard functions negates nothing. -/
theorem inherits_positive : ∀ f ∈ Function.standard, f.Inherits fun w => w.positive :=
  Function.inherits_standard (fun _ _ => rfl) rfl combines_positive
    ⟨fun _ positive => positive, fun _ _ positive => positive⟩

/-- A name grants what standard functions hand on, if it stands for none but these. -/
theorem grants_of_standard {P : Validator → Prop}
    (inherits : ∀ f ∈ Function.standard, f.Inherits P) {s : Setup} {name : String}
    (function : ∀ f, s.functions.get? name = some f → f ∈ Function.standard)
    (symbol : ∀ handle, s.symbols.get? name = some (.rule handle) → P handle.validator) :
    s.book.Grants P name := by
  refine ⟨fun f known => inherits f (function f known), fun arg known w is => ?_⟩
  cases arg with
  | rule handle =>
    cases is
    exact symbol handle known
  | int _ | float _ | str _ | bool _ => cases is

/-- What a rule means has a property that all names in the rule grant. -/
theorem inherits_meaning {P : Validator → Prop} (combines : Combines P) {s : Setup} {text : String}
    (grants : ∀ rule, Expr.parse text = .ok rule → ∀ name ∈ rule.names, s.book.Grants P name)
    {w : Validator} (means : s.reading.meaning text = .ok w) : P w := by
  rw [show s.reading.meaning text = (s.book.compile 0 text).map Handle.validator from rfl] at means
  cases compiled : s.book.compile 0 text with
  | error e =>
    rw [compiled] at means
    cases means
  | ok handle =>
    rw [compiled] at means
    cases means
    exact inherits_compile combines grants compiled

theorem positive_of_builtIn {s : Setup} {text : String}
    (builtIn : ∀ rule, Expr.parse text = .ok rule → ∀ name ∈ rule.names, s.BuiltIn name)
    {w : Validator} (means : s.reading.meaning text = .ok w) : w.positive := by
  refine inherits_meaning (P := fun w => w.positive) combines_positive ?_ means
  intro rule parsed name mem
  have here := builtIn rule parsed name mem
  exact grants_of_standard inherits_positive here.function here.symbol

/-! ## Walks -/

/-- The engine is faithful to its setup, and the value that is walked is still the same. -/
structure WalkState.Stands (s : Setup) (v : Value) (state : WalkState) : Prop where
  faithful : s.Faithful state.work.engine
  root : state.root = v

/-- What a survey is about: a walk of validation, where nested structures are validated inside
their places. -/
structure SurveySetting.Validates (S : SurveySetting) (s : Setup) : Prop where
  registry : S.walk.registry = .validation
  nested (place : Place) (root : Option Value) {u : Value} : u.EveryType s.Modest →
    (S.nested place root u).Ensures (fun w => s.Faithful w.engine) fun _ l => Inside place True l

/-- What is written down of a field: what is done inside of it by a validator, and nothing if the
walk is to go into it. -/
structure Attended (place : Place) (result : Except Fatal Verdict) (deeds : List Deed) : Prop where
  inside : Inside place True deeds
  nothing : result = .ok .descend → deeds = []

theorem attended_nil (place : Place) (result : Except Fatal Verdict) : Attended place result [] :=
  ⟨inside_nil place True, fun _ => rfl⟩

/-- After an error the walk goes nowhere. -/
theorem Attended.ended {place : Place} {result : Except Fatal Verdict} {deeds : List Deed}
    (attended : Attended place result deeds) (e : Fatal) : Attended place (.error e) deeds :=
  ⟨attended.inside, fun goes => by cases goes⟩

theorem verdict_and {a b : Verdict} (both : a.and b = .descend) : a = .descend ∧ b = .descend := by
  cases a <;> cases b <;> first | exact ⟨rfl, rfl⟩ | cases both

namespace Survey

section fields

variable {s : Setup} {v : Value} {S : SurveySetting} (validates : S.Validates s)

theorem ensures_resolve (path : FieldPath) :
    (lift (Walk.resolve path)).Ensures (WalkState.Stands s v) fun result l =>
      l = [] ∧ result = .ok (v.resolve path.steps) :=
  ensures_lift fun state stands => ⟨by rw [← stands.root]; rfl, stands⟩

theorem ensures_record (path : String) (e : Failure) :
    (lift (Walk.record path e)).Ensures (WalkState.Stands s v) fun _ l => l = [] ∧ True :=
  ensures_quiet fun _ stands => ⟨stands.faithful, stands.root⟩

/-- The handler that controls the walk goes nowhere. -/
theorem ensures_walkControl (path : FieldPath) (info : FieldInfo) (argument : Prepared) :
    (lift (Walk.runHandler S.walk path info (.plain .walkControl) argument)).Ensures
      (WalkState.Stands s v) fun _ l => l = [] ∧ True := by
  refine ensures_quiet fun state stands => ?_
  rw [Walk.runHandler]
  cases argument.as? PlainHandler.walkControl.sort with
  | none => exact stands
  | some verdict => exact ⟨stands.faithful, stands.root⟩

include validates

theorem ensures_argumentOf {h : Handler} {pair : Pair}
    (unquoted : unquote pair.quoted = .ok pair.value)
    (handler : s.engine.validation.handlers.get? pair.name = some h) :
    (lift (Walk.argumentOf S.walk h pair)).Ensures (WalkState.Stands s v) fun result l =>
      l = [] ∧ ∀ argument, result = .ok argument →
        s.reading.argument pair.value h = .ok argument := by
  refine ensures_lift fun state stands => ?_
  obtain ⟨work, runs, faithful, -⟩ :=
    run_argumentOf S.walk validates.registry unquoted handler state stands.faithful
  rw [runs]
  refine ⟨fun argument is => ?_, faithful, stands.root⟩
  cases read : s.reading.argument pair.value h with
  | ok other =>
    rw [read] at is
    cases is
    rfl
  | error e =>
    rw [read] at is
    cases is

/-- A rule is run inside the field. -/
theorem ensures_validateField (path : FieldPath) (modest : v.EveryType s.Modest) {w : Validator}
    (positive : w.positive) (few : w.leaves ≤ 1) :
    (validateField S path w).Ensures (WalkState.Stands s v)
      (Attended (path.placeFrom S.base)) := by
  refine (ensures_resolve path).silent (fun e => attended_nil _ _) fun value is => ?_
  cases Except.ok.inj is
  cases leads : v.resolve path.steps with
  | none => exact ensures_throw (attended_nil _ _)
  | some u =>
    have every := Value.everyType_of_resolve leads modest
    refine ensures_get (fun e => attended_nil _ _) fun state _ => ?_
    have runs : Validator.RunsInside (fun w => s.Faithful w.engine) s.Modest (runner S)
        (some (S.walk.outer.getD state.root)) :=
      ⟨fun _ _ _ _ faithful => ⟨rfl, faithful⟩, fun place _ every => validates.nested place _ every⟩
    have ran := w.ensures_runAt runs few (path.placeFrom S.base) every
    have worked : (work (w.runAt (runner S) (some (S.walk.outer.getD state.root))
        (path.placeFrom S.base) u)).Ensures (WalkState.Stands s v) fun _ l =>
          Wrote w.leaves (path.placeFrom S.base) l := by
      intro state stands
      obtain ⟨wrote, faithful⟩ := ran state.work stands.faithful
      exact ⟨wrote, faithful, stands.root⟩
    refine worked.bind (fun e l wrote => ⟨wrote.inside, fun goes => by cases goes⟩)
      fun outcome l wrote => ?_
    -- What the validator says of itself is all that the walk goes by.
    have verdict : Attended (path.placeFrom S.base)
        (.ok (if w.descends then .skip else .descend)) l := by
      refine ⟨wrote.inside, fun goes => wrote.nothing ?_⟩
      have stays : ¬ w.descends := fun descends => by
        rw [if_pos descends] at goes
        cases goes
      rw [Validator.descends_iff_leaves positive] at stays
      omega
    rw [← List.append_nil l] at verdict
    cases outcome with
    | ok _ => exact ensures_pure verdict
    | error e =>
      exact (ensures_record path.name e).silent verdict.ended fun _ _ => ensures_pure verdict

/-- Annotations that give no rule go nowhere. -/
theorem ensures_handle_of_ne (path : FieldPath) (info : FieldInfo) {pair : Pair}
    (unquoted : unquote pair.quoted = .ok pair.value) (other : pair.name ≠ s.config.validateTag) :
    (handle S path info pair).Ensures (WalkState.Stands s v) fun _ l => l = [] ∧ True := by
  refine ensures_get (fun e => ⟨rfl, trivial⟩) fun state stands => ?_
  rw [validates.registry, Engine.registryNamed, stands.faithful.handlers]
  cases handler : s.engine.validation.handlers.get? pair.name with
  | none => exact ensures_pure ⟨rfl, trivial⟩
  | some h =>
    have reads := ensures_argumentOf (v := v) validates unquoted handler
    rw [validation_handler, if_neg other] at handler
    split at handler
    · cases handler
      exact reads.silent (fun _ => ⟨rfl, trivial⟩) fun argument _ =>
        ensures_walkControl path info argument
    · cases handler

/-- An annotation that gives a simple rule goes into the field only if the walk does not. -/
theorem ensures_handle (path : FieldPath) (info : FieldInfo) (modest : v.EveryType s.Modest)
    {pair : Pair} (unquoted : unquote pair.quoted = .ok pair.value)
    (simple : s.Simple pair.value) :
    (handle S path info pair).Ensures (WalkState.Stands s v)
      (Attended (path.placeFrom S.base)) := by
  refine ensures_get (fun e => attended_nil _ _) fun state stands => ?_
  rw [validates.registry, Engine.registryNamed, stands.faithful.handlers]
  cases handler : s.engine.validation.handlers.get? pair.name with
  | none => exact ensures_pure (attended_nil _ _)
  | some h =>
    have reads := ensures_argumentOf (v := v) validates unquoted handler
    refine reads.silent (fun _ => attended_nil _ _) fun argument read => ?_
    have read := read argument rfl
    rw [validation_handler] at handler
    split at handler
    · cases handler
      refine (ensures_walkControl path info argument).weaken fun result l nothing => ?_
      rw [nothing.1]
      exact attended_nil _ _
    · split at handler
      · cases handler
        rw [Reading.argument] at read
        cases means : s.reading.meaning pair.value with
        | error e =>
          rw [means] at read
          cases read
        | ok w =>
          rw [means] at read
          cases read
          have positive := positive_of_builtIn simple.builtIn means
          exact ensures_validateField validates path modest positive (simple.leaves w means)
      · cases handler

theorem ensures_dispatch_of_ne (path : FieldPath) (info : FieldInfo) {pairs : List Pair}
    (unquoted : ∀ pair ∈ pairs, unquote pair.quoted = .ok pair.value)
    (others : ∀ pair ∈ pairs, pair.name ≠ s.config.validateTag) :
    (dispatch S path info pairs).Ensures (WalkState.Stands s v) fun _ l => l = [] ∧ True := by
  induction pairs with
  | nil => exact ensures_pure ⟨rfl, trivial⟩
  | cons pair pairs ih =>
    rcases List.forall_mem_cons.mp unquoted with ⟨here, later⟩
    rcases List.forall_mem_cons.mp others with ⟨other, others⟩
    have first := ensures_handle_of_ne (v := v) validates path info here other
    refine first.silent (fun _ => ⟨rfl, trivial⟩) fun verdict _ => ?_
    exact (ih later others).silent (fun _ => ⟨rfl, trivial⟩) fun _ _ => ensures_pure ⟨rfl, trivial⟩

/-- The handlers of a field with at most one rule go into it only if the walk does not. -/
theorem ensures_dispatch (path : FieldPath) (info : FieldInfo) (modest : v.EveryType s.Modest)
    {pairs : List Pair} (unquoted : ∀ pair ∈ pairs, unquote pair.quoted = .ok pair.value)
    (single : (pairs.filter (·.name = s.config.validateTag)).length ≤ 1)
    (simple : ∀ pair ∈ pairs, pair.name = s.config.validateTag → s.Simple pair.value) :
    (dispatch S path info pairs).Ensures (WalkState.Stands s v)
      (Attended (path.placeFrom S.base)) := by
  induction pairs with
  | nil => exact ensures_pure (attended_nil _ _)
  | cons pair pairs ih =>
    rcases List.forall_mem_cons.mp unquoted with ⟨here, later⟩
    rcases List.forall_mem_cons.mp simple with ⟨first, others⟩
    -- Only one annotation gives a rule, and the verdicts of the others cannot take back its own.
    by_cases rule : pair.name = s.config.validateTag
    · rw [List.filter_cons_of_pos (by simpa using rule), List.length_cons] at single
      have none : pairs.filter (·.name = s.config.validateTag) = [] :=
        List.length_eq_zero_iff.mp (by omega)
      have others : ∀ other ∈ pairs, other.name ≠ s.config.validateTag := fun other mem =>
        by simpa using List.filter_eq_nil_iff.mp none other mem
      have rest := ensures_dispatch_of_ne (v := v) validates path info later others
      refine (ensures_handle validates path info modest here (first rule)).bind
        (fun e l attended => attended.ended e) fun verdict l attended => ?_
      rw [← List.append_nil l] at attended
      refine rest.silent attended.ended fun verdict' _ =>
        ensures_pure ⟨attended.inside, fun goes => attended.nothing ?_⟩
      rw [(verdict_and (Except.ok.inj goes)).1]
    · rw [List.filter_cons_of_neg (by simpa using rule)] at single
      have first := ensures_handle_of_ne (v := v) validates path info here rule
      refine first.silent (fun _ => attended_nil _ _) fun verdict _ => ?_
      refine (ih later single others).bind (fun e l attended => attended.ended e)
        fun verdict' l attended => ?_
      rw [← List.append_nil l] at attended
      refine ensures_pure ⟨attended.inside, fun goes => attended.nothing ?_⟩
      rw [(verdict_and (Except.ok.inj goes)).2]

/-- What a survey does with a field before the walk goes on into it. -/
theorem ensures_attend (path : FieldPath) (modest : v.EveryType s.Modest) {type : RecordType}
    (simple : s.Modest type) {info : FieldInfo} (mem : info ∈ type.fields) :
    ((conduct S).attend path info).Ensures (WalkState.Stands s v) fun result l =>
      ∃ inside, l = .dispatch (path.placeFrom S.base) :: inside ∧
        Attended (path.placeFrom S.base) result inside := by
  obtain ⟨single, rules⟩ := simple info mem
  rw [Config.rules, List.length_map] at single
  have simple : ∀ pair ∈ annotationPairs info.tag, pair.name = s.config.validateTag →
      s.Simple pair.value := fun pair among rule =>
    rules pair.value (List.mem_map_of_mem (List.mem_filter.mpr ⟨among, by simpa using rule⟩))
  have dispatched := ensures_dispatch validates path info modest
    (fun pair among => unquote_of_mem_annotationPairs among) single simple
  refine (ensures_log _).bind (fun e l is => ⟨[], is, attended_nil _ _⟩) fun _ l is => ?_
  rw [is]
  exact dispatched.weaken fun result l' attended => ⟨l', rfl, attended⟩

/-- What is done at the place of a path, once a survey has got there. -/
def Goes (S : SurveySetting) (path : FieldPath) (deeds : List Deed) : Prop :=
  Inside (path.placeFrom S.base) (path.name ≠ "") deeds

theorem ensures_visit {into : FieldPath → Survey Unit} (modest : v.EveryType s.Modest)
    (inside : ∀ path, (into path).Ensures (WalkState.Stands s v) fun _ l => Goes S path l)
    (path : FieldPath) (index : Nat) {type : RecordType} (simple : s.Modest type)
    {info : FieldInfo} (mem : info ∈ type.fields) :
    ((conduct S).visit into path index info).Ensures (WalkState.Stands s v) fun _ l =>
      Spread (path.placeFrom S.base) [.step (.field index)] l := by
  rw [Conduct.visit]
  split
  · have reads : (lift Walk.config).Ensures (WalkState.Stands s v) fun _ l => l = [] ∧ True :=
      ensures_quiet fun _ stands => stands
    refine reads.silent (fun _ => spread_nil _ _) fun config _ => ?_
    let field := path.pushField index (Walk.segment config info)
    have attends := ensures_attend validates field modest simple mem
    refine attends.bind ?_ fun verdict l attended => ?_
    · intro e l attended
      obtain ⟨deeds, rfl, attended⟩ := attended
      exact attended.inside.dispatched
    · obtain ⟨deeds, rfl, attended⟩ := attended
      split
      · next goes =>
        rw [attended.nothing (congrArg Except.ok goes)]
        exact (inside field).weaken fun _ l' goes => Inside.dispatched goes
      · refine ensures_pure ?_
        rw [List.append_nil]
        exact attended.inside.dispatched
  · exact ensures_pure (spread_nil _ _)

theorem ensures_fields {into : FieldPath → Survey Unit} (modest : v.EveryType s.Modest)
    (inside : ∀ path, (into path).Ensures (WalkState.Stands s v) fun _ l => Goes S path l)
    (path : FieldPath) (index : Nat) {type : RecordType} (simple : s.Modest type)
    {infos : List FieldInfo} (among : infos ⊆ type.fields) :
    ((conduct S).fields into path index infos).Ensures (WalkState.Stands s v) fun _ l =>
      Spread (path.placeFrom S.base)
        ((List.range' index infos.length).map fun i => .step (.field i)) l := by
  induction infos generalizing index with
  | nil => exact ensures_pure (spread_nil _ _)
  | cons info infos ih =>
    have first := among List.mem_cons_self
    have visited := ensures_visit validates modest inside path index simple first
    have rest := ih (index + 1) fun other mem => among (List.mem_cons_of_mem _ mem)
    have fresh : Spot.step (.field index) ∉
        (List.range' (index + 1) infos.length).map fun i => .step (.field i) := by
      intro mem
      obtain ⟨other, later, same⟩ := List.mem_map.mp mem
      cases same
      have bound := (List.mem_range'_1.mp later).1
      omega
    rw [Conduct.fields_cons, List.length_cons, List.range'_succ, List.map_cons]
    refine visited.bind (fun _ l spread => spread.first) fun _ l spread => ?_
    exact rest.weaken fun _ l' others => spread.cons fresh others

omit validates

theorem ensures_enter {into : FieldPath → Survey Unit}
    (inside : ∀ path, (into path).Ensures (WalkState.Stands s v) fun _ l => Goes S path l)
    (path : FieldPath) (index : Nat) :
    ((conduct S).enter into path index).Ensures (WalkState.Stands s v) fun _ l =>
      Spread (path.placeFrom S.base) [.step (.index index)] l := by
  refine (ensures_resolve _).silent (fun _ => spread_nil _ _) fun value _ => ?_
  split
  · exact (inside _).weaken fun _ l goes => Inside.spread goes
  · exact ensures_pure (spread_nil _ _)

theorem ensures_items {into : FieldPath → Survey Unit}
    (inside : ∀ path, (into path).Ensures (WalkState.Stands s v) fun _ l => Goes S path l)
    (path : FieldPath) {indices : List Nat} (nodup : indices.Nodup) :
    ((conduct S).items into path indices).Ensures (WalkState.Stands s v) fun _ l =>
      Spread (path.placeFrom S.base) (indices.map fun i => .step (.index i)) l := by
  induction indices with
  | nil => exact ensures_pure (spread_nil _ _)
  | cons index indices ih =>
    rw [List.nodup_cons] at nodup
    have fresh : Spot.step (.index index) ∉ indices.map fun i => .step (.index i) := by
      intro mem
      obtain ⟨other, later, same⟩ := List.mem_map.mp mem
      cases same
      exact nodup.1 later
    rw [Conduct.items_cons, List.map_cons]
    refine (ensures_enter inside path index).bind (fun _ l spread => spread.first)
      fun _ l spread => ?_
    exact (ih nodup.2).weaken fun _ l' others => spread.cons fresh others

/-- A structure below the root may be checked itself after its fields. -/
theorem ensures_selfValidate (path : FieldPath) (before : Nat) {deeds : List Deed}
    (fields : Inside (path.placeFrom S.base) False deeds) :
    (selfValidate S path before).Ensures (WalkState.Stands s v) fun _ l =>
      Goes S path (deeds ++ l) := by
  have only : Goes S path (deeds ++ []) := by
    rw [List.append_nil]
    exact ⟨fields.under, fields.undispatched, fun mem => (fields.own mem).elim, fields.nodup⟩
  refine ensures_get (fun _ => only) fun state _ => ?_
  split
  · next asked =>
    rw [Bool.and_eq_true, Bool.and_eq_true] at asked
    have named : path.name ≠ "" := fun empty => by
      rw [empty] at asked
      cases asked.1.2
    have both : Goes S path (deeds ++ [.selfCheck (path.placeFrom S.base)]) :=
      fields.selfChecked named
    refine (ensures_resolve path).silent (fun _ => only) fun value _ => ?_
    cases value with
    | none => exact ensures_pure only
    | some u =>
      refine (ensures_log _).bind (fun _ l is => is ▸ both) fun _ l is => ?_
      rw [is]
      split
      · exact ensures_pure both
      · refine (ensures_record path.name _).weaken fun _ l' nothing => ?_
        rw [nothing.1]
        exact both
  · exact ensures_pure only

include validates

/-- What is done where a survey goes. -/
theorem ensures_descend (modest : v.EveryType s.Modest) (levels : Nat) (path : FieldPath) :
    ((conduct S).descend levels path).Ensures (WalkState.Stands s v) fun _ l =>
      Goes S path l := by
  induction levels generalizing path with
  | zero => exact ensures_pure (inside_nil _ _)
  | succ levels ih =>
    refine (ensures_resolve path).silent (fun _ => inside_nil _ _) fun value is => ?_
    cases Except.ok.inj is
    split
    · next type fields looks =>
      obtain ⟨u, leads, view⟩ := Option.map_eq_some_iff.mp looks
      have simple : s.Modest type := by
        have every := Value.everyType_of_resolve leads modest
        rw [Value.eq_record_of_view view, Value.EveryType] at every
        exact every.1
      have counts : (lift Walk.count).Ensures (WalkState.Stands s v) fun _ l => l = [] ∧ True :=
        ensures_quiet fun _ stands => stands
      refine counts.silent (fun _ => inside_nil _ _) fun before _ => ?_
      refine (ensures_fields validates modest ih path 0 simple fun _ => id).bind
        (fun _ l spread => spread.inside _) fun _ l spread => ?_
      exact ensures_selfValidate path before (spread.inside False)
    · refine (ih path.pushDeref).weaken fun _ l goes => ?_
      exact (Inside.spread goes).inside _
    · refine (ensures_items ih path List.nodup_range).weaken fun _ l spread => ?_
      exact spread.inside _
    · exact ensures_pure (inside_nil _ _)

/-- A walk does not check the value itself that it starts from. -/
theorem ensures_walkValue (modest : v.EveryType s.Modest) :
    (walkValue S v).Ensures (fun w => s.Faithful w.engine) fun _ l => Inside S.base False l := by
  intro w faithful
  obtain ⟨goes, stands⟩ := ensures_descend validates modest v.depth .root
    { work := w, root := v } ⟨faithful, rfl⟩
  exact ⟨⟨goes.under, goes.undispatched, fun mem => goes.own mem rfl, goes.nodup⟩,
    stands.faithful⟩

end fields

variable {s : Setup}

theorem ensures_judge {place : Place} (result : WalkResult) (v : Value) {deeds : List Deed}
    (fields : Inside place False deeds) :
    (judge place result v).Ensures (fun w => s.Faithful w.engine) fun _ l =>
      Inside place True (deeds ++ l) := by
  have only : Inside place True (deeds ++ []) := by
    rw [List.append_nil]
    exact ⟨fields.under, fields.undispatched, fun _ => trivial, fields.nodup⟩
  rw [judge]
  split
  · exact Logged.ensures_pure only
  · split
    · refine (Logged.ensures_log _).bind fun _ l is => Logged.ensures_pure ?_
      rw [is]
      exact fields.selfChecked trivial
    · exact Logged.ensures_pure only

/-- Nested structures are validated inside their places. -/
theorem ensures_validateNestedWithin (levels : Nat) (place : Place) (root : Option Value)
    {v : Value} (modest : v.EveryType s.Modest) :
    (validateNestedWithin levels place root v).Ensures (fun w => s.Faithful w.engine) fun _ l =>
      Inside place True l := by
  induction levels generalizing place root v with
  | zero =>
    rcases v.record_or_other with ⟨type, values, leads⟩ | other
    · rw [validateNestedWithin_zero leads]
      exact Logged.ensures_pure (inside_nil _ _)
    · rw [validateNestedWithin_other other]
      exact Logged.ensures_pure (inside_nil _ _)
  | succ levels ih =>
    rcases v.record_or_other with ⟨type, values, leads⟩ | other
    · have target := Value.everyType_indirect v modest
      rw [leads] at target
      rw [validateNestedWithin_record leads]
      have reads : (Logged.lift get).Ensures (fun w => s.Faithful w.engine)
          fun (_ : Workspace) l => l = [] ∧ True :=
        Logged.ensures_lift fun _ faithful => ⟨trivial, faithful⟩
      refine reads.silent fun w _ => ?_
      have validates : (validationSurvey w.engine.config.selfValidate root levels (v.behind place)
        (validateNestedWithin levels)).Validates s := ⟨rfl, ih⟩
      refine (ensures_walkValue validates target).bind fun result l fields => ?_
      refine (ensures_judge result _ fields).weaken fun _ l' inside => ?_
      exact inside.of_behind v
    · rw [validateNestedWithin_other other]
      exact Logged.ensures_pure (inside_nil _ _)

end Survey

/-! ## Validation -/

theorem inside_survey {s : Setup} {v : Value} (modest : v.EveryType s.Modest) :
    (Engine.survey v).Ensures (fun w => s.Faithful w.engine) fun _ l => Inside [] False l := by
  have reads : (Logged.lift get).Ensures (fun w => s.Faithful w.engine)
      fun (_ : Workspace) l => l = [] ∧ True :=
    Logged.ensures_lift fun _ faithful => ⟨trivial, faithful⟩
  refine reads.silent fun w _ => ?_
  have validates : (validationSurvey w.engine.config.selfValidate none v.depth []
      (Survey.validateNestedWithin v.depth)).Validates s :=
    ⟨rfl, fun place root _ every => Survey.ensures_validateNestedWithin v.depth place root every⟩
  refine (Survey.ensures_walkValue validates modest).bind fun result l inside => ?_
  rw [← List.append_nil l] at inside
  cases result.outcome with
  | error e => exact Logged.ensures_pure inside
  | ok _ =>
    dsimp only
    split
    · exact Logged.ensures_pure inside
    · exact Logged.ensures_pure inside

/-- Whatever an engine has been asked before: if every field of every structure in a value has at
most one rule, made of what is built in, with at most one leaf that goes into nested structures,
then while the value is validated, no field is dispatched twice and no structure checks itself
twice, by whomever.  A rule made of what is built in descends exactly if it has such a leaf. -/
theorem deeds_nodup {s : Setup} (requests : List Request) {v : Value}
    (modest : v.EveryType s.Modest) :
    let w := ((Request.performAll requests).run { engine := s.engine }).2
    let survey := Engine.survey v w
    (Engine.validateStruct v).run w = (survey.result, survey.state) ∧ survey.deeds.Nodup ∧
      ∀ text, (∀ rule, Expr.parse text = .ok rule → ∀ name ∈ rule.names, s.BuiltIn name) →
        ∀ handle, ((Work.build text).run w).1 = .ok handle →
          (handle.validator.descends ↔ 0 < handle.validator.leaves) := by
  intro w survey
  have faithful : s.Faithful w.engine := keeps_performAll requests _ (faithful_engine s)
  refine ⟨run_validateStruct v w, (inside_survey modest w faithful).1.nodup, ?_⟩
  intro text builtIn handle built
  have means : s.reading.meaning text = .ok handle.validator := by
    rw [← build_eq_meaning faithful]
    exact congrArg (Except.map Handle.validator) built
  exact Validator.descends_iff_leaves (positive_of_builtIn builtIn means)

/-- A list of structures that the rule of a field goes into, and a structure without a rule. -/
theorem deeds_nodup_of_tree :
    let leaf : RecordType :=
      { name := "Leaf"
        fields := [{ name := "size", tag := "validate:\"zero\"" }]
        selfCheck := some fun _ => .ok () }
    let tree : RecordType :=
      { name := "Tree"
        fields :=
          [{ name := "leaves", tag := "validate:\"array(structure)\"" }, { name := "top" }] }
    let v : Value := .record tree [.seq [.boxed (.record leaf [.text ""])], .record leaf [.text ""]]
    let s := Setup.standard {}
    let w := ((Request.performAll [.validateStruct v]).run { engine := s.engine }).2
    let survey := Engine.survey v w
    v.EveryType s.Modest ∧
      (Engine.validateStruct v).run w = (survey.result, survey.state) ∧ survey.deeds.Nodup ∧
      ∀ text, (∀ rule, Expr.parse text = .ok rule → ∀ name ∈ rule.names, s.BuiltIn name) →
        ∀ handle, ((Work.build text).run w).1 = .ok handle →
          (handle.validator.descends ↔ 0 < handle.validator.leaves) := by
  intro leaf tree v s w survey
  have simple : ∀ text n, (s.reading.meaning text).toOption.map Validator.leaves = some n → n ≤ 1 →
      s.Simple text := by
    intro text n counted few
    refine ⟨fun _ _ name _ => builtIn_standard {} name, fun w means => ?_⟩
    rw [means] at counted
    cases counted
    exact few
  have leaf_modest : s.Modest leaf := by
    intro info mem
    cases List.mem_singleton.mp mem
    have rules : s.config.rules { name := "size", tag := "validate:\"zero\"" } = ["zero"] := by
      decide +kernel
    rw [rules]
    refine ⟨Nat.le_refl 1, List.forall_mem_singleton.mpr ?_⟩
    exact simple "zero" 0 (by decide +kernel) (Nat.zero_le 1)
  have tree_modest : s.Modest tree := by
    have rules : s.config.rules { name := "leaves", tag := "validate:\"array(structure)\"" } =
        ["array(structure)"] := by
      decide +kernel
    have none : s.config.rules { name := "top" } = [] := by decide +kernel
    refine List.forall_mem_cons.mpr ⟨?_, List.forall_mem_singleton.mpr ?_⟩
    · rw [rules]
      refine ⟨Nat.le_refl 1, List.forall_mem_singleton.mpr ?_⟩
      exact simple "array(structure)" 1 (by decide +kernel) (Nat.le_refl 1)
    · rw [none]
      exact ⟨Nat.zero_le 1, List.forall_mem_nil _⟩
  have modest : v.EveryType s.Modest := by
    simp only [v, Value.EveryType, Value.EveryTypeIn, and_true]
    exact ⟨tree_modest, leaf_modest, leaf_modest⟩
  exact ⟨modest, deeds_nodup [.validateStruct v] modest⟩

/-- What is done with a list in a field: its element is behind a pointer. -/
example :
    let leaf : RecordType :=
      { name := "Leaf", fields := [{ name := "size" }], selfCheck := some fun _ => .ok () }
    let tree : RecordType :=
      { name := "Tree", fields := [{ name := "leaves", tag := "validate:\"array(structure)\"" }] }
    let v : Value := .record tree [.seq [.boxed (.record leaf [.text ""])]]
    let element : Place := [.step .deref, .step (.index 0), .step (.field 0)]
    (Engine.survey v { engine := .new {} }).deeds =
      [.dispatch [.step (.field 0)], .dispatch (.step (.field 0) :: element),
        .selfCheck element] := by
  decide +kernel

end RecordRules

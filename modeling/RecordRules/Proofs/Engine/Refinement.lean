import RecordRules.Proofs.Engine.Walking

/-!
# Validation is inspection

The walk that validates a structure, and the walks that validators start for nested
structures, find what inspections find and make the same checks in the same order,
whatever the engine has been asked before.
-/

namespace RecordRules

/-! ## Nested structures -/

theorem record_named {config : Config} {v : Value} {type : RecordType} {values : List Value}
    (leads : v.indirect = .record type values) (named : v.Named config) :
    (Value.record type values).Named config :=
  leads ▸ Value.everyType_indirect v named

theorem validateNestedWithin_other {v : Value}
    (other : ∀ type values, v.indirect ≠ .record type values) (levels : Nat)
    (outer : Option Value) :
    validateNestedWithin levels outer v = pure v.indirect.noStructure := by
  rw [validateNestedWithin]
  split
  · next leads => exact absurd leads (other _ _)
  · unfold Value.noStructure
    cases v.indirect.view <;> rfl

/-- Nested structures up to a depth are validated alike. -/
def NestedAlike (s : Setup) (levels : Nat) : Prop :=
  ∀ (outer : Option Value) (v : Value), v.Named s.config → v.weight ≤ levels →
    (working s).Rel (validateNestedWithin levels outer v) (s.reading.nested journal outer v)

/-- The setting of a walk of validation. -/
def validationSetting (selfValidate : Bool) (outer : Option Value) (levels : Nat) :
    WalkSetting where
  registry := .validation
  settable := false
  outer := outer
  selfValidate := selfValidate
  nested := validateNestedWithin levels

theorem simulates_validation {s : Setup} {levels : Nat} (alike : NestedAlike s levels)
    (outer : Option Value) :
    Simulates s levels (validationSetting s.config.selfValidate outer levels)
      (s.reading.runner journal) where
  registry := rfl
  selfValidate := rfl
  check c root v w faithful :=
    ⟨c.test root v, { w with visits := ⟨c, root, v⟩ :: w.visits }, rfl, rfl, faithful⟩
  nested := alike

/-- What a walk says of the structure that was walked, taken on its own. -/
def WalkResult.judge (result : WalkResult) (v : Value) : Outcome :=
  match result.outcome with
  | .error e => .error { code := e.code, message := e.message }
  | .ok () => if result.failures.size = 0 then v.selfCheck else .error (.nested result.failures)

theorem validateNestedWithin_record {v : Value} {type : RecordType} {values : List Value}
    (leads : v.indirect = .record type values) (levels : Nat) (outer : Option Value) :
    validateNestedWithin (levels + 1) outer v = (do
      let selfValidate := (← get).engine.config.selfValidate
      let result ← walkValue (validationSetting selfValidate outer levels) (.record type values)
      return result.judge (.record type values)) := by
  rw [validateNestedWithin, leads]
  refine congrArg (bind get) (funext fun w => congrArg (bind _) (funext fun result => ?_))
  rw [WalkResult.judge]
  cases result.outcome with
  | error e => rfl
  | ok _ =>
    dsimp only
    split <;> rfl

theorem working_record {s : Setup} {levels : Nat} (alike : NestedAlike s levels)
    (outer : Option Value) {v : Value} (named : v.Named s.config) (within : v.weight ≤ levels + 1)
    {type : RecordType} {values : List Value} (leads : v.indirect = .record type values) :
    (working s).Rel (validateNestedWithin (levels + 1) outer v)
      (s.reading.nested journal outer v) := by
  intro w faithful
  obtain ⟨report, w', journals, walks, kept⟩ :=
    run_walkValue (simulates_validation alike outer) (record_named leads named)
      (Nat.le_trans (Value.depth_le_weight leads) within) faithful
  have unfolds : (validateNestedWithin (levels + 1) outer v).run w =
      ((walkValue (validationSetting w.engine.config.selfValidate outer levels)
          (.record type values) >>= fun result => pure (result.judge (.record type values)) :
        Work Outcome)).run w := by
    rw [validateNestedWithin_record leads]
    rfl
  change (s.reading.content (s.reading.runner journal) (outer.getD (.record type values)) false ""
    (.record type values)).run.run w.visits = (report, w'.visits) at journals
  rw [unfolds, faithful.config, StateT.run_bind, walks, Reading.nested_record _ _ leads,
    Reading.alone, StateT.run_bind, journals]
  obtain ⟨recorded, result⟩ := report
  cases result with
  | error e => exact ⟨.error { code := e.code, message := e.message }, w', rfl, rfl, kept⟩
  | ok _ =>
    refine ⟨if (Failures.collect recorded).size = 0 then (Value.record type values).selfCheck
      else .error (.nested (Failures.collect recorded)), w', rfl, ?_, kept⟩
    · change StateT.run (if (Failures.collect recorded).size = 0 then _ else _) _ = _
      split <;> rfl

/-- Nested structures are validated on their own, like everything else. -/
theorem nestedAlike (s : Setup) (levels : Nat) : NestedAlike s levels := by
  intro outer v named within
  rcases v.record_or_other with ⟨type, values, leads⟩ | other
  · cases levels with
    | zero =>
      have positive := Value.weight_pos leads
      omega
    | succ levels => exact working_record (nestedAlike s levels) outer named within leads
  · rw [validateNestedWithin_other other, Reading.nested_other _ _ other]
    exact (working s).pure _

/-! ## Validation -/

/-- Validating a structure is inspecting it. -/
theorem working_validateStruct (s : Setup) {v : Value} (named : v.Named s.config) :
    (working s).Rel (Engine.validateStruct v) (s.reading.inspect journal v) := by
  intro w faithful
  obtain ⟨report, w', journals, walks, kept⟩ :=
    run_walkValue (simulates_validation (nestedAlike s v.depth) none) named (Nat.le_succ _) faithful
  have setting : Engine.walkWith .validation false s.config.selfValidate none v =
      walkValue (validationSetting s.config.selfValidate none v.depth) v := rfl
  rw [show (validationSetting s.config.selfValidate none v.depth).outer = none from rfl,
    Option.getD_none] at journals
  rw [Engine.validateStruct, StateT.run_bind, StateT.run_get, pure_bind, StateT.run_bind,
    faithful.config, setting, walks, Reading.inspect, StateT.run_bind,
    show (⟨journal.check, s.reading.nested journal⟩ : Validator.Runner Journal) =
      s.reading.runner journal from rfl, journals]
  obtain ⟨recorded, result⟩ := report
  cases result with
  | error e => exact ⟨.error (.fatal e), w', rfl, rfl, kept⟩
  | ok _ =>
    refine ⟨if (Failures.collect recorded).size = 0 then .ok ()
      else .error (.fields (Failures.collect recorded)), w', ?_, ?_, kept⟩
    · change StateT.run (if (Failures.collect recorded).size = 0 then _ else _) _ = _
      split <;> rfl
    · change StateT.run (if (Failures.collect recorded).size = 0 then _ else _) _ = _
      split <;> rfl

/-- Whatever an engine has been asked before, validating a structure with it is inspecting the
structure: it ends in the same way, with the same failures at the same places or the same
error, and the same checks are made in the same order. -/
theorem validateStruct_eq_inspect (s : Setup) (requests : List Request) {v : Value}
    (named : v.Named s.config) :
    let w := ((Request.performAll requests).run { engine := s.engine }).2
    let result := (Engine.validateStruct v).run w
    (s.reading.inspect journal v).run w.visits = (result.1, result.2.visits) := by
  intro w result
  have faithful : s.Faithful w.engine := keeps_performAll requests _ (faithful_engine s)
  obtain ⟨a, w', runs, inspects, -⟩ := working_validateStruct s named w faithful
  have is : result = (a, w') := runs
  rw [inspects, is]

/-- The failures of fields, if it is these that validation has found. -/
def Refusal.found? : Except Refusal Unit → Option Failures
  | .error (.fields failures) => some failures
  | _ => none

theorem Refusal.found?_eq_some_iff {result : Except Refusal Unit} {failures : Failures} :
    found? result = some failures ↔ result = .error (.fields failures) := by
  rcases result with (_ | _ | _) | _ <;> simp [found?]

/-- A structure with a rule for a field in a structure in a list, in an engine that has validated it
before.  One failure is found, at the field of the element. -/
theorem validateStruct_eq_inspect_of_list :
    let leaf : RecordType :=
      { name := "Leaf", fields := [{ name := "size", tag := "validate:\"zero\"" }] }
    let tree : RecordType := { name := "Tree", fields := [{ name := "leaves" }] }
    let v : Value := .record tree [.seq [.record leaf [.text "long"]]]
    let s : Setup := { config := {}, functions := Rulebook.standard.functions, symbols := {} }
    let w := ((Request.performAll [.build "zero", .validateStruct v]).run { engine := s.engine }).2
    let result := (Engine.validateStruct v).run w
    v.Named s.config ∧
      (s.reading.inspect journal v).run w.visits = (result.1, result.2.visits) ∧
      ∃ failures, result.1 = .error (.fields failures) ∧
        failures.entries.map (fun entry => (entry.1, entry.2.code, entry.2.message)) =
          [("leaves[0].size", "zero", "the value is not zero")] := by
  intro leaf tree v s w result
  have named : v.Named s.config := by
    apply named_of_names _
    simp [v, leaf, tree, Value.EveryType, Value.EveryTypeIn]
  have entries : (Refusal.found? result.1).map
      (fun failures => failures.entries.map fun entry =>
        (entry.1, entry.2.code, entry.2.message)) =
      some [("leaves[0].size", "zero", "the value is not zero")] := by
    decide +kernel
  obtain ⟨failures, found, entries⟩ := Option.map_eq_some_iff.mp entries
  exact ⟨named, validateStruct_eq_inspect s [.build "zero", .validateStruct v] named,
    failures, Refusal.found?_eq_some_iff.mp found, entries⟩

end RecordRules

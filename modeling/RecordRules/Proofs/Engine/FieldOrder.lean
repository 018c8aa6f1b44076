import RecordRules.Proofs.Engine.Delegation
import RecordRules.Proofs.Engine.Reordering

/-!
# The order of fields

Validating a structure gives the same failures at the same places in whatever order the
fields are declared, its own and those of the structures inside it, unless an error ends
the validation.
-/

namespace RecordRules

/-! ## Rules of built-in checks -/

namespace Validator

theorem stock_of_check {c : Check} (stock : ∀ custom, c ≠ .custom custom) :
    (Validator.check c).Stock := by
  intro other mem
  rw [checks] at mem
  cases List.mem_singleton.mp mem
  exact stock

theorem stock_of_allChecks {ws : List Validator} (stock : ∀ w ∈ ws, w.Stock) :
    ∀ c ∈ allChecks ws, ∀ custom, c ≠ .custom custom := by
  induction ws with
  | nil =>
    intro c mem
    rw [allChecks] at mem
    cases mem
  | cons w ws ih =>
    obtain ⟨first, others⟩ := List.forall_mem_cons.mp stock
    exact forall_mem_allChecks_cons.mpr ⟨first, ih others⟩

theorem combines_stock : Combines Stock where
  all ws stock := by
    rw [Stock, checks]
    exact stock_of_allChecks stock
  any ws stock := by
    rw [Stock, checks]
    exact stock_of_allChecks stock

/-- What is made of standard functions makes built-in checks only. -/
theorem inherits_stock : ∀ f ∈ Function.standard, f.Inherits Stock := by
  refine Function.inherits_standard (fun _ stock => stock_of_check stock) ?_ combines_stock
    ⟨fun _ stock => stock, fun _ _ stock => stock⟩
  intro c mem
  cases mem

end Validator

/-! ## Orderly engines -/

/-- A name stands for a standard function if it stands for a function, and what it stands for as a
symbol makes built-in checks only. -/
structure Setup.Stock (s : Setup) (name : String) : Prop where
  function : ∀ f, s.functions.get? name = some f → f ∈ Function.standard
  symbol : ∀ handle, s.symbols.get? name = some (.rule handle) → handle.validator.Stock

/-- A structure type whose fields are shown under names, those that are exported under clean ones of
their own; whose rules are made of what is built in; and whose own check addresses the fields by
their names. -/
structure Setup.Orderly (s : Setup) (type : RecordType) : Prop where
  shown : ∀ info ∈ type.fields, Walk.segment s.config info ≠ ""
  distinguishes : type.Distinguishes s.config
  names : type.DistinctNames
  stock : ∀ info ∈ type.fields, ∀ text ∈ s.config.rules info, ∀ rule, Expr.parse text = .ok rule →
    ∀ name ∈ rule.names, s.Stock name
  byName : ∀ check, type.selfCheck = some check → Snapshot.ByName check

theorem stock_standard (config : Config) (name : String) : (Setup.standard config).Stock name where
  function _ known := (mem_standard known).1
  symbol _ known := by cases known

theorem reading_orderly {s : Setup} {type : RecordType} (orderly : s.Orderly type) :
    s.reading.Orderly type where
  distinguishes := orderly.distinguishes
  names := orderly.names
  stock info mem text rule w means := by
    refine inherits_meaning Validator.combines_stock (fun parsed parses name mentions => ?_) means
    have stock := orderly.stock info mem text rule parsed parses name mentions
    exact grants_of_standard Validator.inherits_stock stock.function stock.symbol
  byName := orderly.byName

theorem unordered_shown (config : Config) :
    Value.Unordered fun type => ∀ info ∈ type.fields, Walk.segment config info ≠ "" :=
  fun _ _ shown perm info mem => shown info (perm.mem_iff.mpr mem)

/-! ## Reordering -/

/-- Whatever engines have been asked before, validating a structure gives the same failures at the
same places if the fields of some structures in it are declared in another order, unless it ends
with a fatal error or an error ends the validation of a structure by a validator. -/
theorem validateStruct_of_reorders {s : Setup} {v v' : Value} (reorders : v.Reorders v')
    (orderly : v.EveryType s.Orderly) (uninterrupted : s.reading.Uninterrupted v)
    (requests requests' : List Request) :
    let w := ((Request.performAll requests).run { engine := s.engine }).2
    let w' := ((Request.performAll requests').run { engine := s.engine }).2
    let result := ((Engine.validateStruct v).run w).1
    (∀ e, result ≠ .error (.fatal e)) → ((Engine.validateStruct v').run w').1 = result := by
  intro w w' result passes
  have named : v.Named s.config := Value.everyType_mono (fun _ orderly => orderly.shown) orderly
  have named' : v'.Named s.config :=
    Value.everyType_of_reorders (unordered_shown s.config) reorders named
  have reads : v.EveryType s.reading.Orderly :=
    Value.everyType_mono (fun _ orderly => reading_orderly orderly) orderly
  obtain ⟨found, strictly⟩ := uninterrupted
  have is : result = found := validateStruct_of_settling settling_strict named strictly requests
  rw [is] at passes ⊢
  have strictly' := inspect_of_reorders reorders reads strictly passes
  exact validateStruct_of_settling settling_strict named' strictly' requests'

/-- A structure without a name and with a span that ends before it starts, declared in two ways.  In
both the span fails its own check, which asks for its ends by name. -/
theorem validateStruct_of_reorders_of_span :
    let start : FieldInfo := { name := "start", tag := "validate:\"min(1)\"" }
    let stop : FieldInfo := { name := "stop" }
    let title : FieldInfo := { name := "title", tag := "json:\"name\" validate:\"required\"" }
    let inside : FieldInfo := { name := "span" }
    let range : RecordType :=
      { name := "Span"
        fields := [start, stop]
        selfCheck := some (Snapshot.ordered "start" "stop") }
    let page : RecordType := { name := "Page", fields := [title, inside] }
    let low : Value := .integer .uint8 ⟨3, by decide⟩
    let high : Value := .integer .uint8 ⟨5, by decide⟩
    let v : Value := .record page [.text "", .record range [high, low]]
    let v' : Value := .record { page with fields := [inside, title] }
      [.record { range with fields := [stop, start] } [low, high], .text ""]
    let s := Setup.standard {}
    let w := ((Request.performAll [.validateStruct v']).run { engine := s.engine }).2
    let w' := ((Request.performAll [.build "zero"]).run { engine := s.engine }).2
    let result := ((Engine.validateStruct v).run w).1
    v.Reorders v' ∧ v.EveryType s.Orderly ∧ s.reading.Uninterrupted v ∧
      (∃ failures, result = .error (.fields failures) ∧ failures.keys = ["name", "span"]) ∧
      ((Engine.validateStruct v').run w').1 = result := by
  intro start stop title inside range page low high v v' s w w' result
  have swaps : ∀ {info other : FieldInfo} {u u' : Value},
      Rearranged [info, other] [u, u'] [other, info] [u', u] :=
    ⟨rfl, rfl, List.Perm.swap _ _ _⟩
  have reorders : v.Reorders v' := by
    have ends : (Value.record range [high, low]).Reorders _ :=
      .record (.cons (.integer _ _) (.cons (.integer _ _) .nil)) swaps
    exact .record (.cons (.text "") (.cons ends .nil)) swaps
  have range_orderly : s.Orderly range :=
    { shown := by decide +kernel
      distinguishes := by decide +kernel
      names := by decide +kernel
      stock := fun _ _ _ _ _ _ name _ => stock_standard {} name
      byName := by
        rintro check own
        cases own
        exact Snapshot.byName_ordered _ _ }
  have page_orderly : s.Orderly page :=
    { shown := by decide +kernel
      distinguishes := by decide +kernel
      names := by decide +kernel
      stock := fun _ _ _ _ _ _ name _ => stock_standard {} name
      byName := fun _ own => by cases own }
  have orderly : v.EveryType s.Orderly := by
    simp only [v, low, high, Value.EveryType, Value.EveryTypeIn, and_true, true_and]
    exact ⟨page_orderly, range_orderly⟩
  have uninterrupted : s.reading.Uninterrupted v := by
    have ends : (s.reading.inspect strict v).toOption.isSome := by decide +kernel
    obtain ⟨found, is⟩ := Option.isSome_iff_exists.mp ends
    exact ⟨found, ok_of_toOption is⟩
  have fails : ∃ failures, result = .error (.fields failures) ∧
      failures.keys = ["name", "span"] := by
    have keys : (Refusal.found? result).map Table.keys = some ["name", "span"] := by
      decide +kernel
    obtain ⟨failures, found, keys⟩ := Option.map_eq_some_iff.mp keys
    exact ⟨failures, Refusal.found?_eq_some_iff.mp found, keys⟩
  have passes : ∀ e, result ≠ .error (.fatal e) := by
    obtain ⟨failures, is, -⟩ := fails
    intro e fatal
    cases is.symm.trans fatal
  exact ⟨reorders, orderly, uninterrupted, fails,
    validateStruct_of_reorders reorders orderly uninterrupted [.validateStruct v'] [.build "zero"]
      passes⟩

end RecordRules

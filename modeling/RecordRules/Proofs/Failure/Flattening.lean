import RecordRules.Proofs.Engine.Refinement
import RecordRules.Proofs.Failure.Recording

/-!
# How far failures are flattened

A failure may carry failures of fields, which may carry failures of fields in turn.  Recording
one takes it apart once: what it carries goes into the table at joined paths, as it is
(`Failures.Flattens`).  So a plain failure that sits deeper is not found at a path of its own, but
inside an entry, and a failure that carries an empty collection leaves nothing behind.  Everything
is found where it belongs exactly if the failure nests no deeper than once.

Validation goes by what has been left behind: a structure passes exactly if everything that was
reported of it carries an empty collection.
-/

namespace RecordRules

namespace Failure

/-- The failure has no fields and sits inside another one, at the end of these places, each of them
relative to the one before. -/
inductive SitsIn (leaf : Failure) : Failure → List String → Prop
  | here : leaf.fields = none → SitsIn leaf leaf []
  | deeper {e inner : Failure} {fields : List (String × Failure)} {place : String}
      {places : List String} :
    e.fields = some fields → (Table.ofList fields).get? place = some inner →
    SitsIn leaf inner places → SitsIn leaf e (place :: places)

/-- The failures of fields have no fields in turn. -/
def NestsOnce (e : Failure) : Prop :=
  ∀ fields, e.fields = some fields →
    ∀ place inner, (Table.ofList fields).get? place = some inner → inner.fields = none

/-- What recording a failure at a path puts into the table. -/
inductive Puts (path : String) (e : Failure) : String → Failure → Prop
  | whole : e.fields = none → Puts path e path e
  | part {fields : List (String × Failure)} {place : String} {inner : Failure} :
    e.fields = some fields → (Table.ofList fields).get? place = some inner →
    Puts path e (joinPath path place) inner

end Failure

namespace Failures

open Failure (SitsIn NestsOnce Puts)

variable {path place : String} {e found put : Failure}

/-- What is put into the table is found there. -/
theorem get?_record_of_puts (fs : Failures) (puts : e.Puts path place put) :
    (fs.record path e).get? place = some put := by
  cases puts with
  | whole plain => rw [record, plain, Table.get?_insert, if_pos rfl]
  | part nested is =>
    rw [record_eq_insertAll fs (path, e), single, nested]
    dsimp only
    rw [Table.get?_insertAll_map (joinPath_injective path)]
    exact congrArg (Option.or · _) is

/-- Everywhere else the table stays as it is. -/
theorem get?_record_of_other (fs : Failures) (other : ∀ put, ¬ e.Puts path place put) :
    (fs.record path e).get? place = fs.get? place := by
  cases fields : e.fields with
  | none =>
    have ne : path ≠ place := fun is => other e (is ▸ .whole fields)
    rw [record, fields, Table.get?_insert, if_neg ne]
  | some nested =>
    rw [record_eq_insertAll fs (path, e), single, fields]
    by_cases below : ∃ rest, joinPath path rest = place
    · obtain ⟨rest, rfl⟩ := below
      have nothing : (Table.empty.insertAll nested).get? rest = none :=
        Option.eq_none_iff_forall_ne_some.mpr fun put is => other put (.part fields is)
      dsimp only
      rw [Table.get?_insertAll_map (joinPath_injective path), nothing, Option.none_or]
    · apply Table.get?_insertAll_of_other
      intro entry mem is
      obtain ⟨inner, -, rfl⟩ := List.mem_map.mp mem
      exact below ⟨inner.1, is⟩

/-- Recording a failure takes it apart once. -/
structure Flattens (fs : Failures) (path : String) (e : Failure) : Prop where
  /-- The table holds what the failure puts there, and else what it held before. -/
  get?_iff : ∀ place found, (fs.record path e).get? place = some found ↔
    e.Puts path place found ∨ fs.get? place = some found ∧ ∀ put, ¬ e.Puts path place put
  /-- A plain failure sits in the entry at the first place that leads to it. -/
  sits : ∀ leaf places, SitsIn leaf e places →
    ∃ found, (fs.record path e).get? ((places.take 1).foldl joinPath path) = some found ∧
      SitsIn leaf found (places.drop 1)
  /-- What is put into the table carries no failures exactly if the failure nests once. -/
  plain_iff : (∀ place put, e.Puts path place put → put.fields = none) ↔ e.NestsOnce
  /-- In this case every plain failure is found at its own path. -/
  found : e.NestsOnce → ∀ leaf places, SitsIn leaf e places →
    (fs.record path e).get? (places.foldl joinPath path) = some leaf
  /-- Nothing is put there exactly if the failure carries an empty collection. -/
  puts_iff : (∃ place put, e.Puts path place put) ↔ Solid e

theorem sits_record (fs : Failures) {leaf : Failure} {places : List String}
    (sits : SitsIn leaf e places) :
    ∃ found, (fs.record path e).get? ((places.take 1).foldl joinPath path) = some found ∧
      SitsIn leaf found (places.drop 1) := by
  cases sits with
  | here plain => exact ⟨e, get?_record_of_puts fs (.whole plain), .here plain⟩
  | @deeper _ inner _ _ _ fields is rest =>
    exact ⟨inner, get?_record_of_puts fs (.part fields is), rest⟩

theorem plain_iff_nestsOnce :
    (∀ place put, e.Puts path place put → put.fields = none) ↔ e.NestsOnce := by
  constructor
  · intro plain fields nested place inner is
    exact plain _ _ (.part nested is)
  · intro once place put puts
    cases puts with
    | whole plain => exact plain
    | part nested is => exact once _ nested _ _ is

theorem found_record (fs : Failures) (once : e.NestsOnce) {leaf : Failure} {places : List String}
    (sits : SitsIn leaf e places) :
    (fs.record path e).get? (places.foldl joinPath path) = some leaf := by
  cases sits with
  | here plain => exact get?_record_of_puts fs (.whole plain)
  | deeper fields is rest =>
    cases rest with
    | here plain => exact get?_record_of_puts fs (.part fields is)
    | deeper fields' _ _ => simp [once _ fields _ _ is] at fields'

theorem puts_iff_solid : (∃ place put, e.Puts path place put) ↔ Solid e := by
  rw [Solid]
  constructor
  · rintro ⟨place, put, puts⟩ empty
    cases puts with
    | whole plain => simp [empty] at plain
    | part nested is =>
      obtain rfl := Option.some.inj (empty.symm.trans nested)
      cases is
  · intro solid
    cases fields : e.fields with
    | none => exact ⟨path, e, .whole fields⟩
    | some nested =>
      have nonempty : nested ≠ [] := fun nil => solid (fields.trans (congrArg some nil))
      have size : (Table.ofList nested).entries ≠ [] := fun nil =>
        Table.size_insertAll .empty nonempty (congrArg List.length nil)
      obtain ⟨⟨place, inner⟩, mem⟩ := List.exists_mem_of_ne_nil _ size
      exact ⟨_, inner, .part fields (Table.get?_eq_some_iff.mpr mem)⟩

theorem flattens (fs : Failures) (path : String) (e : Failure) : fs.Flattens path e where
  get?_iff place found := by
    by_cases some : ∃ put, e.Puts path place put
    · obtain ⟨put, puts⟩ := some
      rw [get?_record_of_puts fs puts]
      constructor
      · intro is
        exact .inl (Option.some.inj is ▸ puts)
      · rintro (puts' | ⟨-, none⟩)
        · rw [← get?_record_of_puts fs puts, get?_record_of_puts fs puts']
        · exact absurd puts (none put)
    · have none : ∀ put, ¬ e.Puts path place put := fun put puts => some ⟨put, puts⟩
      rw [get?_record_of_other fs none]
      exact ⟨fun is => .inr ⟨is, none⟩, fun | .inl puts => absurd puts (none _) | .inr is => is.1⟩
  sits leaf places := sits_record fs
  plain_iff := plain_iff_nestsOnce
  found once leaf places := found_record fs once
  puts_iff := puts_iff_solid

end Failures

/-! ## What becomes of a validation -/

/-- A structure passes if nothing ends its inspection and what is reported leaves nothing behind. -/
theorem inspect_ok_iff {s : Setup} {v : Value} {visits visits' : List Visit}
    {result : Except Refusal Unit}
    (inspects : (s.reading.inspect journal v).run visits = (result, visits')) :
    let report :=
      ((s.reading.content (s.reading.runner journal) v false "" v).run.run visits).1
    result = .ok () ↔
      report.result = .ok () ∧ ∀ entry ∈ report.recorded, ¬ Failures.Solid entry.2 := by
  intro report
  rcases reports : (s.reading.content (s.reading.runner journal) v false "" v).run.run visits
    with ⟨⟨recorded, ended⟩, after⟩
  have is : report = ⟨recorded, ended⟩ := congrArg Prod.fst reports
  rw [Reading.inspect, StateT.run_bind, show
    (⟨journal.check, s.reading.nested journal⟩ : Validator.Runner Journal) =
      s.reading.runner journal from rfl, reports] at inspects
  rw [is]
  cases ended with
  | error e =>
    have refused : Except.error (.fatal e) = result := congrArg Prod.fst inspects
    rw [← refused]
    constructor
    · intro passed
      cases passed
    · intro passed
      cases passed.1
  | ok _ =>
    change StateT.run (if (Failures.collect recorded).size = 0 then _ else _) _ = _ at inspects
    rw [← Failures.size_collect_eq_zero_iff]
    split at inspects
    · next zero =>
      have passed : Except.ok () = result := congrArg Prod.fst inspects
      rw [← passed]
      exact ⟨fun _ => ⟨rfl, zero⟩, fun _ => rfl⟩
    · next some =>
      have refused : Except.error (.fields (Failures.collect recorded)) = result :=
        congrArg Prod.fst inspects
      rw [← refused]
      constructor
      · intro passed
        cases passed
      · intro passed
        exact absurd passed.2 some

/-- Recording any failure, in any table and at any path, takes it apart once.  And whatever an
engine has been asked before, validating a structure ends well if and only if nothing interrupts
its inspection and everything that is reported of it carries an empty collection. -/
theorem record_flattens_once (s : Setup) (requests : List Request) {v : Value}
    (named : v.Named s.config) :
    (∀ (fs : Failures) (path : String) (e : Failure), fs.Flattens path e) ∧
      let w := ((Request.performAll requests).run { engine := s.engine }).2
      let report :=
        ((s.reading.content (s.reading.runner journal) v false "" v).run.run w.visits).1
      ((Engine.validateStruct v).run w).1 = .ok () ↔
        report.result = .ok () ∧ ∀ entry ∈ report.recorded, ¬ Failures.Solid entry.2 := by
  refine ⟨Failures.flattens, ?_⟩
  intro w report
  have faithful : s.Faithful w.engine := keeps_performAll requests _ (faithful_engine s)
  obtain ⟨result, w', runs, inspects, -⟩ := working_validateStruct s named w faithful
  rw [runs]
  exact inspect_ok_iff inspects

/-- A structure passes although the check of a structure inside it fails, because what that check
returns carries an empty collection. -/
theorem record_flattens_once_of_empty :
    let person : RecordType :=
      { name := "Person", fields := [{ name := "age" }]
        selfCheck := some fun _ => .error (.nested {}) }
    let order : RecordType := { name := "Order", fields := [{ name := "buyer" }] }
    let buyer : Value := .record person [.text "nine"]
    let v : Value := .record order [buyer]
    let s : Setup := { config := {}, functions := Rulebook.standard.functions, symbols := {} }
    let w := ((Request.performAll [.validateStruct v]).run { engine := s.engine }).2
    v.Named s.config ∧ buyer.selfCheck = .error (.nested {}) ∧
      ((Engine.validateStruct v).run w).1 = .ok () := by
  intro person order buyer v s w
  have named : v.Named s.config := by
    apply named_of_names _
    simp [v, buyer, order, person, Value.EveryType, Value.EveryTypeIn]
  have passes := (record_flattens_once s [.validateStruct v] named).2
  exact ⟨named, rfl, passes.mpr (by decide +kernel)⟩

/-- Of two collections, one in the other, only the outer one is taken apart; and an empty one
leaves nothing behind. -/
theorem nested_twice_kept :
    let plain : Failure := { code := "x", message := "m" }
    let once : Failure := .nested (.ofList [("c", plain)])
    let twice : Failure := .nested (.ofList [("b", once)])
    let after := ({} : Failures).record "a" twice
    plain.SitsIn twice ["b", "c"] ∧ after.get? "a.b.c" = none ∧
      after.get? "a.b" = some once ∧ once.fields = some [("c", plain)] ∧
      (({} : Failures).record "a" (.nested {})).size = 0 := by
  intro plain once twice after
  have kept : after.get? (joinPath "a" "b") = some once :=
    Failures.get?_record_of_puts {} (.part rfl rfl)
  have missing : after.get? "a.b.c" = none := Option.isNone_iff_eq_none.mp (by decide +kernel)
  exact ⟨.deeper rfl rfl (.deeper rfl rfl (.here rfl)), missing, kept, rfl, rfl⟩

end RecordRules

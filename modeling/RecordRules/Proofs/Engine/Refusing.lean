import RecordRules.Proofs.Engine.Walking
import RecordRules.Proofs.Value.Locating

/-!
# Assignments that fail

An assignment turns its literal into a value before it puts the value anywhere, so one that fails
leaves scalars as they were, and what does not take literals, too.  But an absent value has been
filled by then, with the zero value of what it may hold, and stays so.  What a failed assignment
leaves is therefore said by the value alone, whatever the literal and the error
(`Value.allocated`), and it is what was there before unless there is an absent value at the end
of the pointers.
-/

namespace RecordRules

namespace Value

/-! ## What a failed assignment leaves -/

/-- The value with an absent one at the end of its pointers filled in some way. -/
def allocatedWith (fill : Content → Value) : Value → Value
  | absent content => fill content
  | present content target => present content (allocatedWith fill target)
  | boxed target => boxed (allocatedWith fill target)
  | v => v

/-- An absent value that has been filled; what it holds may be absent in turn, as many times as its
type nests optional types. -/
def allocateWithin : Nat → Content → Value
  | 0, content => absent content
  | depth + 1, content => present content (allocatedWith (allocateWithin depth) content.zero)

/-- The value with absent ones at the end of its pointers filled with zero values. -/
def allocated (v : Value) : Value :=
  v.allocatedWith fun content => allocateWithin content.fillDepth content

theorem le_foldl_add (types : List (String × Shape)) (depth : Nat) :
    depth ≤ types.foldl (fun depth t => depth + t.2.optionDepth + 1) depth := by
  induction types generalizing depth with
  | nil => exact Nat.le_refl depth
  | cons t types ih =>
    have first := ih (depth + t.2.optionDepth + 1)
    rw [List.foldl_cons]
    omega

theorem fillDepth_pos (content : Content) : 0 < content.fillDepth :=
  lt_of_lt_of_le (Nat.succ_pos content.shape.optionDepth) (le_foldl_add content.types _)

/-- A filled absent value is there. -/
theorem allocateWithin_ne {depth : Nat} {content : Content} (some : 0 < depth) :
    allocateWithin depth content ≠ absent content := by
  cases depth with
  | zero => exact absurd some (Nat.lt_irrefl 0)
  | succ depth => exact nofun

/-- A value that is not absent, behind pointers or not, is left alone. -/
theorem allocatedWith_of_indirect (fill : Content → Value) {v : Value}
    (there : ∀ content, v.indirect ≠ absent content) : v.allocatedWith fill = v := by
  match v with
  | .present content target =>
    have same : target.allocatedWith fill = target := allocatedWith_of_indirect fill there
    rw [allocatedWith, same]
  | .boxed target =>
    have same : target.allocatedWith fill = target := allocatedWith_of_indirect fill there
    rw [allocatedWith, same]
  | .absent content => exact absurd rfl (there content)
  | .bool _ | .integer _ _ | .single _ | .double _ | .text _ | .fixedText _ | .json _ | .seq _
  | .map _ | .record _ _ | .entry _ _ => rfl

/-- The values left alone are those without an absent one at the end of their pointers. -/
theorem allocated_eq_iff (v : Value) :
    v.allocated = v ↔ ∀ content, v.indirect ≠ absent content := by
  refine ⟨fun same content ends => ?_, allocatedWith_of_indirect _⟩
  match v with
  | .absent _ => exact allocateWithin_ne (fillDepth_pos _) same
  | .present _ target => exact (allocated_eq_iff target).mp (present.inj same).2 content ends
  | .boxed target => exact (allocated_eq_iff target).mp (boxed.inj same) content ends
  | .bool _ | .integer _ _ | .single _ | .double _ | .text _ | .fixedText _ | .json _ | .seq _
  | .map _ | .record _ _ | .entry _ _ => cases ends

theorem adopt_error {α : Type} {old : Value} {make : α → Value} {result : Except SetError α}
    {e : SetError} (failed : (adopt old make result).1 = .error e) :
    (adopt old make result).2 = old := by
  cases result with
  | ok x => cases failed
  | error e => rfl

/-- What a failed assignment leaves, given what a failed filling does. -/
theorem assignWith_error {fill : Content → Assigned} {left : Content → Value} {l : Literal}
    {e : SetError}
    (fills : ∀ content, (fill content).1 = .error e → (fill content).2 = left content) :
    ∀ v : Value, (v.assignWith fill l).1 = .error e →
      (v.assignWith fill l).2 = v.allocatedWith left
  | .bool _, failed | .integer _ _, failed | .single _, failed | .double _, failed
  | .text _, failed => adopt_error failed
  | .json _, failed => by cases failed
  | .absent content, failed => by
    rw [assignWith] at failed ⊢
    split at failed
    · cases failed
    · next some =>
      rw [if_neg some]
      exact fills content failed
  | .present content target, failed => by
    rw [assignWith] at failed ⊢
    split at failed
    · cases failed
    · next some =>
      rw [if_neg some]
      exact congrArg (present content) (assignWith_error fills target failed)
  | .boxed target, failed => congrArg boxed (assignWith_error fills target failed)
  | .fixedText _, _ | .seq _, _ | .map _, _ | .record _ _, _ | .entry _ _, _ => rfl

theorem fillWith_error {l : Literal} {e : SetError} (depth : Nat) (content : Content)
    (failed : (fillWith l depth content).1 = .error e) :
    (fillWith l depth content).2 = allocateWithin depth content := by
  induction depth generalizing content with
  | zero => rfl
  | succ depth ih => exact congrArg (present content) (assignWith_error ih content.zero failed)

/-- What a failed assignment leaves does not depend on the literal. -/
theorem set_error {l : Literal} {v : Value} {e : SetError} (failed : (v.set l).1 = .error e) :
    (v.set l).2 = v.allocated :=
  assignWith_error (fun content => fillWith_error content.fillDepth content) v failed

/-- An absent array is filled, each place with the zero value of an item, and then takes no literal
as a whole. -/
theorem set_absent_array {l : Literal} (some : l ≠ .null) (length : Nat) (item : Shape)
    (types : TypeTable) :
    let content : Content := ⟨.array length item, types⟩
    (absent content).set l = (.error (.unsupported .seq),
      present content (.seq (List.replicate length (item.zero types)))) := by
  intro content
  obtain ⟨depth, is⟩ := Nat.exists_eq_succ_of_ne_zero (fillDepth_pos content).ne'
  rw [set, assignWith, if_neg some, is]
  rfl

end Value

/-! ## Fields -/

/-- A walk that ends because a literal cannot be assigned to a field has changed nothing but that
field, if anything. -/
theorem assign_error {s : WalkSetting} {path : FieldPath} {l : Literal} {state : WalkState}
    {name : String} {e : SetError}
    (failed : ((Walk.assign s path l).run.run state).1 = .error (.assignment name e)) :
    ∃ root, ((Walk.assign s path l).run.run state).2 = { state with root } ∧
      state.root.update (Value.set l) path.steps = some (.error e, root) := by
  have assigning := run_assigning s path l state
  generalize (Walk.assign s path l).run.run state = after at assigning failed ⊢
  cases assigning with
  | unsettable _ | unresolved _ => cases failed
  | @assigned outcome root changes =>
    cases outcome with
    | ok _ => cases failed
    | error e' =>
      cases failed
      exact ⟨root, rfl, changes⟩

/-- An assignment that fails leaves the value as it is, but for absent values at the end of its
pointers, which it has filled: so it leaves the value just as it is if and only if there is none.

What ends a walk when a literal cannot be assigned to a field leaves the field so, too, and the
rest of the value alone. -/
theorem failed_assignment (l : Literal) (v : Value) (s : WalkSetting) (path : FieldPath)
    (state : WalkState) :
    (∀ e, (v.set l).1 = .error e →
      (v.set l).2 = v.allocated ∧
        ((v.set l).2 = v ↔ ∀ content, v.indirect ≠ .absent content)) ∧
    ∀ name e, ((Walk.assign s path l).run.run state).1 = .error (.assignment name e) →
      ∃ u root, ((Walk.assign s path l).run.run state).2 = { state with root } ∧
        state.root.resolve path.steps = some u ∧ root.resolve path.steps = some u.allocated ∧
        (∀ others, ¬ path.steps <+: others → ¬ others <+: path.steps →
          root.resolve others = state.root.resolve others) ∧
        (root = state.root ↔ ∀ content, u.indirect ≠ .absent content) := by
  constructor
  · intro e failed
    have left := Value.set_error failed
    exact ⟨left, left ▸ v.allocated_eq_iff⟩
  · intro name e failed
    obtain ⟨root, after, changes⟩ := assign_error failed
    obtain ⟨u, found, is, still⟩ := Value.resolve_of_update changes
    have settles := Value.replaces_set l
    have left : root.resolve path.steps = some u.allocated := by
      rw [Value.resolve_update settles changes, found, Option.map_some, Value.set_error is]
    refine ⟨u, root, after, found, left, fun others inside around => ?_, ?_⟩
    · exact Value.resolve_update_apart settles inside around changes
    · rw [← u.allocated_eq_iff]
      constructor
      · intro same
        rw [same, found] at left
        exact (Option.some.inj left).symm
      · exact fun same => still ((Value.set_error is).trans same)

/-- An integer behind two pointers refuses a text, on its own and as a field. -/
theorem failed_assignment_of_pointer :
    let content : Content := ⟨.integer .int32, []⟩
    let v : Value := .boxed (.present content (.integer .int32 ⟨7, by decide⟩))
    let holder : RecordType := { name := "Holder", fields := [{ name := "port" }] }
    let s : WalkSetting :=
      { registry := .full, settable := true, outer := none, selfValidate := true,
        nested := validateNestedWithin 0 }
    let state : WalkState := { work := { engine := .new {} }, root := .record holder [v] }
    let path := FieldPath.root.pushField 0 "port"
    let assigned := (Walk.assign s path (.str "abc")).run.run state
    (v.set (.str "abc")).1 = .error (.mismatch (.str "abc") "i32") ∧ (v.set (.str "abc")).2 = v ∧
      assigned.1 = .error (.assignment "port" (.mismatch (.str "abc") "i32")) ∧
      assigned.2.root = state.root := by
  intro content v holder s state path assigned
  have refuses : (v.set (.str "abc")).1 = .error (.mismatch (.str "abc") "i32") := by
    decide +kernel
  have there : ∀ content, v.indirect ≠ .absent content := nofun
  have ends : assigned.1 = .error (.assignment "port" (.mismatch (.str "abc") "i32")) := by
    decide +kernel
  obtain ⟨leaves, fields⟩ := failed_assignment (.str "abc") v s path state
  obtain ⟨u, root, after, found, -, -, still⟩ := fields _ _ ends
  have is : u = v := (Option.some.inj found).symm
  refine ⟨refuses, (leaves _ refuses).2.mpr there, ends, ?_⟩
  rw [show assigned.2 = _ from after]
  exact still.mpr (is ▸ there)

/-- An absent integer that refuses a text is zero afterwards, on its own and as a field. -/
theorem failed_assignment_fills :
    let v : Value := .absent ⟨.integer .int32, []⟩
    let holder : RecordType :=
      { name := "Holder", fields := [{ name := "port", tag := "default:\"abc\"" }] }
    let assigned := v.set (.str "abc")
    let walked := ((Engine.walk true (.record holder [v])).run { engine := .new {} }).1
    assigned.1 = .error (.mismatch (.str "abc") "i32") ∧ assigned.2.literal? = some (.int 0) ∧
      assigned.2 ≠ v ∧
      walked.outcome = .error (.assignment "port" (.mismatch (.str "abc") "i32")) ∧
      (walked.root.resolve [.field 0]).bind Value.literal? = some (.int 0) ∧
      ((Value.record holder [v]).resolve [.field 0]).bind Value.literal? = some .null := by
  intro v holder assigned walked
  have filled : assigned.2 = .present _ _ := rfl
  refine ⟨by decide +kernel, by decide +kernel, ?_, by decide +kernel, by decide +kernel,
    by decide +kernel⟩
  rw [filled]
  exact nofun

end RecordRules

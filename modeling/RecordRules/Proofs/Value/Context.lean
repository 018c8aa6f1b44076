import RecordRules.Proofs.Value.Locating

/-!
# Contexts

Whatever is done at one place of a value and below it concerns nothing else.  To say so, the
rest of the value is taken to be a context: a value with a hole, steps that lead to the hole,
and a way through it that is open for changes or not.

A context is made of frames, one for each step.
-/

namespace RecordRules.Value

/-- One level of a value around a hole that one step leads to. -/
structure Frame (step : Step) (wrap : Value → Value) (opened : Bool) : Prop where
  follow (u : Value) : (wrap u).follow step = some u
  update {α : Type} (change : Value → α × Value) (u : Value) (rest : List Step) :
    (wrap u).update change (step :: rest) =
      if opened then (u.update change rest).map fun (a, u) => (a, wrap u) else none

theorem frame_field {type : RecordType} {index : Nat} {info : FieldInfo}
    (is : type.fields[index]? = some info) (shown : info.access ≠ .hidden) (fields : List Value)
    (inside : index < fields.length) :
    Frame (.field index) (fun u => record type (fields.set index u)) (info.access == .full) where
  follow u := follow_of_leads (.field is shown (List.getElem?_set_self inside))
  update change u rest := by
    have changeable : isChangeable type index = (info.access == .full) := by
      rw [isChangeable, is]
    rw [update, changeable, List.getElem?_set_self inside, Option.bind_some]
    simp only [List.set_set]

theorem frame_item {index : Nat} (items : List Value) (inside : index < items.length) :
    Frame (.index index) (fun u => seq (items.set index u)) true where
  follow u := follow_of_leads (.item (List.getElem?_set_self inside))
  update change u rest := by
    rw [update, List.getElem?_set_self inside, Option.bind_some, if_pos rfl]
    simp only [List.set_set]

theorem frame_present (content : Content) : Frame .deref (present content) true where
  follow _ := rfl
  update _ _ _ := rfl

theorem frame_boxed : Frame .deref boxed true where
  follow _ := rfl
  update _ _ _ := rfl

/-- A value around a hole that steps lead to.  What is filled in is read there, and changes
behind the hole stay behind it; if the way is not open, none is made. -/
structure Context (steps : List Step) (fill : Value → Value) (opened : Bool) : Prop where
  resolve (u : Value) : (fill u).resolve steps = some u
  update {α : Type} (change : Value → α × Value) (u : Value) (rest : List Step) :
    (fill u).update change (steps ++ rest) =
      if opened then (u.update change rest).map fun (a, u) => (a, fill u) else none

theorem context_root : Context [] id true where
  resolve _ := rfl
  update _ _ _ := Option.map_id'.symm

section context

variable {steps : List Step} {fill : Value → Value} {opened : Bool}

/-- A context around a frame. -/
theorem Context.around (context : Context steps fill opened) {step : Step} {wrap : Value → Value}
    {wide : Bool} (frame : Frame step wrap wide) :
    Context (steps ++ [step]) (fun u => fill (wrap u)) (opened && wide) where
  resolve u := by
    rw [resolve_append, context.resolve, Option.bind_some, resolve_one, frame.follow]
  update change u rest := by
    rw [List.append_assoc, List.singleton_append, context.update, frame.update]
    cases opened with
    | false => rfl
    | true =>
      cases wide with
      | false => rfl
      | true => exact Option.map_map _ _ _

/-- What is made of a change in the hole. -/
theorem Context.update_here (context : Context steps fill opened) {α : Type}
    (change : Value → α × Value) (u : Value) :
    (fill u).update change steps =
      if opened then some ((change u).1, fill (change u).2) else none := by
  have here := context.update change u []
  rwa [List.append_nil] at here

/-- Nothing changes a field that does not show itself. -/
theorem Context.update_of_unshown (context : Context steps fill opened) {type : RecordType}
    {fields : List Value} {index : Nat} (unshown : fieldAt type fields index = none) {α : Type}
    (change : Value → α × Value) :
    (fill (record type fields)).update change (steps ++ [.field index]) = none := by
  have nothing : (record type fields).update change [.field index] = none := by
    rw [Value.update]
    split
    · next changeable =>
      rw [isChangeable] at changeable
      rw [fieldAt] at unshown
      cases is : type.fields[index]? with
      | none => simp [is] at changeable
      | some info =>
        rw [is] at changeable unshown
        have shown : info.access ≠ .hidden := by
          rw [eq_of_beq changeable]
          decide
        have missing : fields[index]? = none := (if_neg shown).symm.trans unshown
        rw [missing, Option.bind_none]
    · rfl
  rw [context.update, nothing]
  cases opened <;> rfl

end context

end RecordRules.Value

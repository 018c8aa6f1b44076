import RecordRules.Proofs.Engine.Pairing

/-!
# The steps of a handler

Whatever a handler does with a field is made of a few kinds of steps: it looks at the state,
reads its argument, runs a validator, leaves notes, records failures at the field, assigns a
literal to it, or gives up.  What every such step has in common, the handlers of all
annotations have in common, and so has the check that a structure makes of itself.
-/

namespace RecordRules

/-- A relation that the steps of handlers for the field at a path have to themselves, in the
states that a walk `sees`. -/
structure Respects (R : MonadRelation Walk Walk) (sees : WalkState → Prop) (s : WalkSetting)
    (path : FieldPath) : Prop where
  get {α : Type} {f : WalkState → Walk α} : (∀ state, sees state → R.Rel (f state) (f state)) →
    R.Rel (get >>= f) (get >>= f)
  throw {α : Type} (e : Fatal) : R.Rel (throw e : Walk α) (throw e)
  argumentOf (h : Handler) (pair : Pair) :
    R.Rel (Walk.argumentOf s h pair) (Walk.argumentOf s h pair)
  validate (validator : Validator) (value : Value) {state : WalkState} : sees state →
    R.Rel
      (Walk.work (validator.run ⟨Work.check, s.nested⟩ (some (s.outer.getD state.root)) value))
      (Walk.work (validator.run ⟨Work.check, s.nested⟩ (some (s.outer.getD state.root)) value))
  note (notes : List Note) :
    R.Rel (Walk.work (modify fun w => { w with notes := notes ++ w.notes }))
      (Walk.work (modify fun w => { w with notes := notes ++ w.notes }))
  record (e : Failure) : R.Rel (Walk.record path.name e) (Walk.record path.name e)
  assign (l : Literal) : R.Rel (Walk.assign s path l) (Walk.assign s path l)

namespace Respects

variable {R : MonadRelation Walk Walk} {sees : WalkState → Prop} {s : WalkSetting}
  {path : FieldPath}

theorem resolve (respects : Respects R sees s path) :
    R.Rel (Walk.resolve path) (Walk.resolve path) :=
  respects.get fun _ _ => R.pure _

theorem validateField (respects : Respects R sees s path) (validator : Validator) :
    R.Rel (Walk.validateField s path validator) (Walk.validateField s path validator) := by
  refine R.bind respects.resolve fun value => ?_
  cases value with
  | none => exact respects.throw _
  | some value =>
    refine respects.get fun state sees => ?_
    refine R.bind (respects.validate validator value sees) fun outcome => ?_
    cases outcome with
    | ok _ => exact R.pure _
    | error e => exact R.bind (respects.record e) fun _ => R.pure _

theorem react (respects : Respects R sees s path) (reaction : Reaction) :
    R.Rel (Walk.react s path reaction) (Walk.react s path reaction) := by
  have verdict := Walk.verdict_related R respects.throw reaction.verdict
  refine R.bind (respects.note _) fun _ => ?_
  refine R.bind (Walk.records_related R respects.record _) fun _ => ?_
  cases reaction.assign with
  | none => exact verdict
  | some l => exact R.bind (respects.assign l) fun _ => verdict

theorem runHandler (respects : Respects R sees s path) (info : FieldInfo) (h : Handler)
    (argument : Prepared) :
    R.Rel (Walk.runHandler s path info h argument) (Walk.runHandler s path info h argument) := by
  cases h with
  | validate shared =>
    rw [Walk.runHandler]
    cases argument.as? .rule with
    | none => exact respects.throw _
    | some validator => exact respects.validateField validator
  | plain h =>
    rw [Walk.runHandler]
    cases argument.as? h.sort with
    | none => exact respects.throw _
    | some payload => exact respects.get fun _ _ => respects.react _

/-- What the steps respect, the handlers of all annotations respect. -/
theorem dispatch (respects : Respects R sees s path) (info : FieldInfo) (pairs : List Pair) :
    R.Rel (Walk.dispatchBy Walk.runHandler s path info pairs)
      (Walk.dispatchBy Walk.runHandler s path info pairs) := by
  refine Walk.dispatchBy_related R fun pair _ => respects.get fun state _ => ?_
  cases (state.work.engine.registryNamed s.registry).handlers.get? pair.name with
  | none => exact R.pure _
  | some h => exact R.bind (respects.argumentOf h pair) fun _ => respects.runHandler info h _

/-- So does the own check of a structure. -/
theorem selfValidate (respects : Respects R sees s path) (before : Nat) :
    R.Rel (Walk.selfValidate s path before) (Walk.selfValidate s path before) := by
  refine respects.get fun state _ => ?_
  split
  · refine R.bind respects.resolve fun value => ?_
    cases value with
    | none => exact R.pure _
    | some v =>
      dsimp only
      split
      · exact R.pure _
      · exact respects.record _
  · exact R.pure _

end Respects

end RecordRules

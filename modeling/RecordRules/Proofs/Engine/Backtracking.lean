import RecordRules.Proofs.Engine.Pairing
import RecordRules.Proofs.Value.Retracing

/-!
# Walks on one path

A walk hands to each of its parts the path at which the part is to go on.  Another walker keeps one
path and changes it as it goes: it pushes a step before it goes into a field, an element or the
target of a pointer, and pops the step when it comes back (`Trail.descend`).  From any location it
does what the walk there does, and unless it ends early it is back where it was
(`Trail.run_descend`), since each pop undoes the push before it (`FieldPath.pop_goOn`).  When a walk
ends early its path is not looked at any more, and a trail that ends early has none.
-/

namespace RecordRules

/-! ## Walkers that keep their path -/

/-- A walk that keeps the path it is on. -/
abbrev Trail := StateT FieldPath Walk

namespace Trail

/-- Does at the location what a walk does there. -/
def here {α : Type} (action : FieldPath → Walk α) : Trail α := do
  action (← get)

/-- Goes a step on, does something, and takes the step back. -/
def aside (push : FieldPath.Push) (action : Trail Unit) : Trail Unit := do
  modify fun path => path.perform (.push push)
  action
  modify fun path => path.perform .pop

/-- Walks one field of the structure at the location, given how to go on into it. -/
def walkField (s : WalkSetting) (descend : Trail Unit) (index : Nat) (info : FieldInfo) :
    Trail Unit := do
  if info.exported then
    let segment := Walk.segment (← here fun _ => Walk.config) info
    aside (.field index segment) do
      let verdict ← here fun field => Walk.dispatch s field info (annotationPairs info.tag)
      if verdict = .descend then
        descend

/-- Walks the fields of the structure at the location. -/
def walkFields (s : WalkSetting) (descend : Trail Unit) : Nat → List FieldInfo → Trail Unit
  | _, [] => return
  | index, info :: infos => do
    walkField s descend index info
    walkFields s descend (index + 1) infos

/-- Walks an element of the sequence at the location, if it is a structure. -/
def walkItem (descend : Trail Unit) (index : Nat) : Trail Unit :=
  aside (.index index) do
    match (← here Walk.resolve).map Value.indirect with
    | some (.record _ _) => descend
    | _ => return

/-- Walks those elements of the sequence at the location that are structures. -/
def walkItems (descend : Trail Unit) : List Nat → Trail Unit
  | [] => return
  | index :: indices => do
    walkItem descend index
    walkItems descend indices

/-- Walks what is at the location, at most so many levels deep. -/
def descend (s : WalkSetting) : Nat → Trail Unit
  | 0 => return
  | levels + 1 => do
    match (← here Walk.resolve).map Value.view with
    | some (.record type _) => do
      let before := (← here fun _ => get).recorded
      walkFields s (descend s levels) 0 type.fields
      here fun path => Walk.selfValidate s path before
    | some (.pointer _) => aside .deref (descend s levels)
    | some (.seq items) => walkItems (descend s levels) (List.range items.length)
    | _ => return

/-- At each location a trail does what a walk does there, and comes back. -/
def Retraces {α : Type} (x : Trail α) (action : FieldPath → Walk α) : Prop :=
  ∀ path, x.run path = (fun a => (a, path)) <$> action path

/-! ## Steps -/

section steps

variable {α β : Type}

theorem retraces_pure (a : α) : Retraces (pure a) fun _ => pure a := by
  intro path
  rw [StateT.run_pure, map_pure]

theorem retraces_here (action : FieldPath → Walk α) : Retraces (here action) action := by
  intro path
  rw [here, StateT.run_bind, StateT.run_get, pure_bind]
  exact StateT.run_lift _ path

theorem Retraces.bind {x : Trail α} {action : FieldPath → Walk α} {y : α → Trail β}
    {next : α → FieldPath → Walk β} (first : Retraces x action)
    (rest : ∀ a, Retraces (y a) (next a)) :
    Retraces (x >>= y) fun path => action path >>= fun a => next a path := by
  intro path
  rw [StateT.run_bind, first path, bind_map_left, map_bind]
  exact bind_congr fun a => rest a path

/-- A step aside is taken back. -/
theorem Retraces.aside {x : Trail Unit} {action : FieldPath → Walk Unit} (inner : Retraces x action)
    (push : FieldPath.Push) :
    Retraces (aside push x) fun path => action (path.goOn push) := by
  intro path
  rw [Trail.aside, StateT.run_bind, StateT.run_modify, pure_bind, StateT.run_bind, inner,
    bind_map_left, map_eq_pure_bind]
  refine bind_congr fun _ => ?_
  rw [StateT.run_modify]
  exact congrArg (fun back => pure ((), back)) (path.pop_goOn push)

end steps

/-! ## Walks -/

section walks

variable {s : WalkSetting} {down : Trail Unit} {descend : FieldPath → Walk Unit}

theorem walkFields_cons (path : FieldPath) (index : Nat) (info : FieldInfo)
    (infos : List FieldInfo) :
    Walk.walkFields s descend path index (info :: infos) =
      (Walk.conduct Walk.runHandler s).visit descend path index info >>= fun _ =>
        Walk.walkFields s descend path (index + 1) infos := by
  simp only [← Walk.walkFieldsBy_runHandler, ← Walk.fields_conduct]
  exact Conduct.fields_cons _ descend path index info infos

theorem walkItems_cons (s : WalkSetting) (path : FieldPath) (index : Nat) (indices : List Nat) :
    Walk.walkItems descend path (index :: indices) =
      (Walk.conduct Walk.runHandler s).enter descend path index >>= fun _ =>
        Walk.walkItems descend path indices := by
  simp only [← Walk.items_conduct Walk.runHandler s]
  exact Conduct.items_cons _ descend path index indices

theorem retraces_walkField (goesDown : Retraces down descend) (index : Nat) (info : FieldInfo) :
    Retraces (walkField s down index info) fun path =>
      (Walk.conduct Walk.runHandler s).visit descend path index info := by
  -- What is done between the push and the pop, on the path of the field.
  have attends : Retraces
      (do
        let verdict ← here fun field => Walk.dispatch s field info (annotationPairs info.tag)
        if verdict = .descend then
          down)
      (fun field => do
        if (← (Walk.conduct Walk.runHandler s).attend field info) = .descend then
          descend field) := by
    simp only [Walk.conduct, Walk.dispatchBy_runHandler]
    refine (retraces_here _).bind fun verdict => ?_
    split
    · exact goesDown
    · exact retraces_pure ()
  by_cases exported : info.exported
  · simp only [walkField, Conduct.visit, if_pos exported]
    refine (retraces_here fun _ => Walk.config).bind fun config => ?_
    exact attends.aside (.field index _)
  · simp only [walkField, Conduct.visit, if_neg exported]
    exact retraces_pure ()

theorem retraces_walkFields (goesDown : Retraces down descend) (index : Nat)
    (infos : List FieldInfo) :
    Retraces (walkFields s down index infos) fun path =>
      Walk.walkFields s descend path index infos := by
  induction infos generalizing index with
  | nil => exact retraces_pure ()
  | cons info infos ih =>
    simp only [walkFields, walkFields_cons]
    exact (retraces_walkField goesDown index info).bind fun _ => ih (index + 1)

theorem retraces_walkItem (s : WalkSetting) (goesDown : Retraces down descend) (index : Nat) :
    Retraces (walkItem down index) fun path =>
      (Walk.conduct Walk.runHandler s).enter descend path index := by
  have enters : Retraces
      (do
        match (← here Walk.resolve).map Value.indirect with
        | some (.record _ _) => down
        | _ => return)
      (fun item => do
        match (← Walk.resolve item).map Value.indirect with
        | some (.record _ _) => descend item
        | _ => return) := by
    refine (retraces_here _).bind fun value => ?_
    generalize value.map Value.indirect = element
    match element with
    | some (.record _ _) => exact goesDown
    | none | some (.bool _) | some (.integer _ _) | some (.single _) | some (.double _)
    | some (.text _) | some (.fixedText _) | some (.json _) | some (.absent _)
    | some (.present _ _) | some (.boxed _) | some (.seq _) | some (.map _)
    | some (.entry _ _) => exact retraces_pure ()
  exact enters.aside (.index index)

theorem retraces_walkItems (s : WalkSetting) (goesDown : Retraces down descend)
    (indices : List Nat) :
    Retraces (walkItems down indices) fun path => Walk.walkItems descend path indices := by
  induction indices with
  | nil => exact retraces_pure ()
  | cons index indices ih =>
    simp only [walkItems, walkItems_cons s]
    exact (retraces_walkItem s goesDown index).bind fun _ => ih

theorem retraces_descend (s : WalkSetting) (levels : Nat) :
    Retraces (Trail.descend s levels) (Walk.descend s levels) := by
  induction levels with
  | zero => exact retraces_pure ()
  | succ levels ih =>
    refine (retraces_here Walk.resolve).bind fun value => ?_
    generalize value.map Value.view = view
    match view with
    | some (.record type _) =>
      refine (retraces_here fun _ => get).bind fun before => ?_
      refine (retraces_walkFields ih 0 type.fields).bind fun _ => ?_
      exact retraces_here fun path => Walk.selfValidate s path before.recorded
    | some (.pointer _) => exact ih.aside .deref
    | some (.seq items) => exact retraces_walkItems s ih (List.range items.length)
    | none | some .null | some (.bool _) | some (.int _) | some (.uint _) | some (.float _)
    | some (.str _) | some (.map _) | some (.entry _ _) => exact retraces_pure ()

end walks

/-- From any location a walker on one path does what a walk there does: it has the same effects and
ends early with the same error, or it is back at the location. -/
theorem run_descend (s : WalkSetting) (levels : Nat) (path : FieldPath) :
    (descend s levels).run path = (fun _ => ((), path)) <$> Walk.descend s levels path :=
  retraces_descend s levels path

end Trail

/-- So a value can be walked on one path, from the root and back to it. -/
theorem run_walkValue_of_trail (s : WalkSetting) (v : Value) (w : Workspace) :
    let trail := ((Trail.descend s v.depth).run .root).run.run { work := w, root := v }
    (walkValue s v).run w =
        (⟨trail.1.map Prod.fst, trail.2.root, trail.2.failures⟩, trail.2.work) ∧
      ∀ back, trail.1 = .ok ((), back) → back = .root := by
  intro trail
  have walks : trail = ((Walk.descend s v.depth .root).run.run { work := w, root := v }).map
      (Except.map fun _ => ((), .root)) id := by
    change ((Trail.descend s v.depth).run .root).run.run _ = _
    rw [Trail.run_descend, ExceptT.run_map, StateT.run_map]
    rfl
  generalize is : (Walk.descend s v.depth .root).run.run { work := w, root := v } = walk at walks
  have runs : (walkValue s v).run w = (⟨walk.1, walk.2.root, walk.2.failures⟩, walk.2.work) := by
    rw [← is]
    rfl
  obtain ⟨outcome, state⟩ := walk
  rw [runs, walks]
  cases outcome with
  | error e => exact ⟨rfl, nofun⟩
  | ok _ => exact ⟨rfl, fun back is => (Prod.mk.inj (Except.ok.inj is)).2.symm⟩

end RecordRules

import RecordRules.Engine.Walk
import RecordRules.Proofs.Check.Running

/-!
# What a walk is made of

A walk goes from field to field in one and the same way, whatever it does there.  A `Conduct`
gives what it does: how a value is looked up, what is done with a field, and what is done
around the fields of a structure.  It may have any effects.

If two conducts are related piece by piece, so are the walks that they make.
-/

namespace RecordRules

/-- What a walk does on its way. -/
structure Conduct (m : Type → Type) where
  /-- The value at a path. -/
  look : FieldPath → m (Option Value)
  config : m Config
  /-- What is done with the field at a path. -/
  attend : FieldPath → FieldInfo → m Verdict
  /-- What is done around the fields of the structure at a path. -/
  enclose : FieldPath → m Unit → m Unit

namespace Conduct

section walk

variable {m : Type → Type} [Monad m]

/-- Goes through the fields of the structure at a path, given how to go on into one. -/
def fields (c : Conduct m) (descend : FieldPath → m Unit) (path : FieldPath) :
    Nat → List FieldInfo → m Unit
  | _, [] => return
  | index, info :: infos => do
    if info.exported then
      let field := path.pushField index (Walk.segment (← c.config) info)
      if (← c.attend field info) = .descend then
        descend field
    fields c descend path (index + 1) infos

/-- Goes through those elements of the sequence at a path that are structures. -/
def items (c : Conduct m) (descend : FieldPath → m Unit) (path : FieldPath) : List Nat → m Unit
  | [] => return
  | index :: indices => do
    let item := path.pushIndex index
    match (← c.look item).map Value.indirect with
    | some (.record _ _) => descend item
    | _ => pure ()
    items c descend path indices

/-- Goes through what is at a path, at most so many levels deep. -/
def descend (c : Conduct m) : Nat → FieldPath → m Unit
  | 0, _ => return
  | levels + 1, path => do
    match (← c.look path).map Value.view with
    | some (.record type _) => c.enclose path (fields c (descend c levels) path 0 type.fields)
    | some (.pointer _) => descend c levels path.pushDeref
    | some (.seq items) => c.items (descend c levels) path (List.range items.length)
    | _ => return

/-- Goes through one field of the structure at a path. -/
def visit (c : Conduct m) (descend : FieldPath → m Unit) (path : FieldPath) (index : Nat)
    (info : FieldInfo) : m Unit := do
  if info.exported then
    let field := path.pushField index (Walk.segment (← c.config) info)
    if (← c.attend field info) = .descend then
      descend field

/-- Goes into one element of the sequence at a path, if it is a structure. -/
def enter (c : Conduct m) (descend : FieldPath → m Unit) (path : FieldPath) (index : Nat) :
    m Unit := do
  match (← c.look (path.pushIndex index)).map Value.indirect with
  | some (.record _ _) => descend (path.pushIndex index)
  | _ => return

theorem fields_cons [LawfulMonad m] (c : Conduct m) (descend : FieldPath → m Unit)
    (path : FieldPath) (index : Nat) (info : FieldInfo) (infos : List FieldInfo) :
    c.fields descend path index (info :: infos) =
      c.visit descend path index info >>= fun _ => c.fields descend path (index + 1) infos := by
  rw [fields, visit]
  split
  · simp only [bind_assoc]
    refine congrArg (bind c.config) (funext fun config => ?_)
    refine congrArg (bind _) (funext fun verdict => ?_)
    split
    · rfl
    · rw [pure_bind]
  · rw [pure_bind]

theorem items_cons [LawfulMonad m] (c : Conduct m) (descend : FieldPath → m Unit)
    (path : FieldPath) (index : Nat) (indices : List Nat) :
    c.items descend path (index :: indices) =
      c.enter descend path index >>= fun _ => c.items descend path indices := by
  rw [items, enter, bind_assoc]
  refine congrArg (bind _) (funext fun value => ?_)
  split
  · rfl
  · exact (pure_bind () fun _ => c.items descend path indices).symm

end walk

variable {m n : Type → Type} [Monad m] [Monad n] {R : MonadRelation m n}
  {met : RecordType → Prop} {c : Conduct m} {c' : Conduct n}

/-- Two conducts that do related things where a walk may get to: at fields of structures whose
type they have met. -/
structure Related (R : MonadRelation m n) (met : RecordType → Prop) (c : Conduct m)
    (c' : Conduct n) : Prop where
  /-- What comes after looking may rely on the type that was met. -/
  look (path : FieldPath) {f : Option Value → m Unit} {f' : Option Value → n Unit} :
    (∀ value, (∀ type fields, value.map Value.view = some (.record type fields) → met type) →
      R.Rel (f value) (f' value)) →
    R.Rel (c.look path >>= f) (c'.look path >>= f')
  config : R.Rel c.config c'.config
  attend (path : FieldPath) {type : RecordType} {info : FieldInfo} : met type →
    info ∈ type.fields → R.Rel (c.attend path info) (c'.attend path info)
  enclose (path : FieldPath) {x : m Unit} {x' : n Unit} : R.Rel x x' →
    R.Rel (c.enclose path x) (c'.enclose path x')

theorem Related.fields (related : Related R met c c') {descend : FieldPath → m Unit}
    {descend' : FieldPath → n Unit} (into : ∀ path, R.Rel (descend path) (descend' path))
    (path : FieldPath) {type : RecordType} (meets : met type) (index : Nat) {infos : List FieldInfo}
    (among : infos ⊆ type.fields) :
    R.Rel (c.fields descend path index infos) (c'.fields descend' path index infos) := by
  induction infos generalizing index with
  | nil => exact R.pure _
  | cons info infos ih =>
    have rest := ih (index + 1) fun info mem => among (List.mem_cons_of_mem _ mem)
    rw [Conduct.fields, Conduct.fields]
    split
    · refine R.bind related.config fun config => ?_
      refine R.bind (related.attend _ meets (among List.mem_cons_self)) fun verdict => ?_
      split
      · exact R.bind (into _) fun _ => rest
      · exact rest
    · exact rest

theorem Related.items (related : Related R met c c') {descend : FieldPath → m Unit}
    {descend' : FieldPath → n Unit} (into : ∀ path, R.Rel (descend path) (descend' path))
    (path : FieldPath) (indices : List Nat) :
    R.Rel (c.items descend path indices) (c'.items descend' path indices) := by
  induction indices with
  | nil => exact R.pure _
  | cons index indices ih =>
    refine related.look _ fun value _ => ?_
    split
    · exact R.bind (into _) fun _ => ih
    · exact ih

/-- Walks of related conducts are related. -/
theorem Related.descend (related : Related R met c c') (levels : Nat) (path : FieldPath) :
    R.Rel (c.descend levels path) (c'.descend levels path) := by
  induction levels generalizing path with
  | zero => exact R.pure _
  | succ levels ih =>
    refine related.look path fun value meets => ?_
    split
    · next type fields is =>
      exact related.enclose path (related.fields ih path (meets type fields is) 0 fun _ => id)
    · exact ih _
    · exact related.items ih path _
    · exact R.pure _

end Conduct

end RecordRules

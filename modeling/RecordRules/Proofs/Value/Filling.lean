import RecordRules.Proofs.Value.Parts
import RecordRules.Value.Assign

/-!
# What an assignment leaves

An assignment that succeeds leaves a scalar behind pointers, whatever was there before; all
structures, sequences and maps refuse.  And it leaves nothing else behind: what a further
assignment does to the value is what it would have done to the old one.
-/

namespace RecordRules

namespace Value

/-! ## Scalars behind pointers -/

/-- A scalar, behind pointers or none, or a pointer that leads nowhere. -/
inductive Filled : Value → Prop
  | bool (b : Bool) : Filled (bool b)
  | integer (type : IntType) (n : type.Number) : Filled (integer type n)
  | single (x : Single) : Filled (single x)
  | double (x : Double) : Filled (double x)
  | text (s : String) : Filled (text s)
  | document (l : Literal) : Filled (json (.ofLiteral l))
  | absent (content : Content) : Filled (absent content)
  | present (content : Content) {target : Value} : Filled target → Filled (present content target)
  | boxed {target : Value} : Filled target → Filled (boxed target)

theorem filled_adopt {β : Type} {old : Value} {make : β → Value} {result : Except SetError β}
    (made : ∀ b, Filled (make b)) (ok : (adopt old make result).1 = .ok ()) :
    Filled (adopt old make result).2 := by
  cases result with
  | ok b => exact made b
  | error e => cases ok

theorem filled_assignWith {fill : Content → Assigned} {l : Literal}
    (fills : ∀ content, (fill content).1 = .ok () → Filled (fill content).2) :
    ∀ v : Value, (v.assignWith fill l).1 = .ok () → Filled (v.assignWith fill l).2
  | .bool _, ok => filled_adopt .bool ok
  | .integer type _, ok => filled_adopt (.integer type) ok
  | .single _, ok => filled_adopt .single ok
  | .double _, ok => filled_adopt .double ok
  | .text _, ok => filled_adopt .text ok
  | .json _, _ => .document l
  | .absent content, ok => by
    rw [assignWith] at ok ⊢
    split at ok
    · next null =>
      rw [if_pos null]
      exact .absent content
    · next null =>
      rw [if_neg null]
      exact fills content ok
  | .present content target, ok => by
    rw [assignWith] at ok ⊢
    split at ok
    · next null =>
      rw [if_pos null]
      exact .absent content
    · next null =>
      rw [if_neg null]
      exact .present content (filled_assignWith fills target ok)
  | .boxed target, ok => .boxed (filled_assignWith fills target ok)
  | .fixedText _, ok | .seq _, ok | .map _, ok | .record _ _, ok | .entry _ _, ok => by cases ok

theorem filled_fillWith (l : Literal) (depth : Nat) (content : Content)
    (ok : (fillWith l depth content).1 = .ok ()) : Filled (fillWith l depth content).2 := by
  induction depth generalizing content with
  | zero => cases ok
  | succ depth ih => exact .present content (filled_assignWith ih content.zero ok)

/-- An assignment that succeeds leaves a scalar behind pointers. -/
theorem filled_set {l : Literal} {v : Value} (ok : (v.set l).1 = .ok ()) : Filled (v.set l).2 :=
  filled_assignWith (fun content => filled_fillWith l content.fillDepth content) v ok

/-- There is no structure in a scalar. -/
theorem everyType_filled {p : RecordType → Prop} {v : Value} (filled : Filled v) :
    v.EveryType p := by
  induction filled with
  | present _ _ ih =>
    rw [EveryType]
    exact ih
  | boxed _ ih =>
    rw [EveryType]
    exact ih
  | bool _ | integer _ _ | single _ | double _ | text _ | document _ | absent _ => simp [EveryType]

/-! ## Assigning again -/

/-- Two assignments that end alike, and leave the same if they succeed. -/
def Concurs (r r' : Assigned) : Prop :=
  r.1 = r'.1 ∧ (r.1 = .ok () → r.2 = r'.2)

theorem made_of_adopt {β : Type} {old y : Value} {make : β → Value} {result : Except SetError β}
    (ok : adopt old make result = (.ok (), y)) : ∃ b, y = make b := by
  cases result with
  | ok b =>
    cases ok
    exact ⟨b, rfl⟩
  | error e => cases ok

theorem concurs_adopt {β : Type} (old old' : Value) (make : β → Value)
    (result : Except SetError β) : Concurs (adopt old make result) (adopt old' make result) := by
  cases result with
  | ok b => exact ⟨rfl, fun _ => rfl⟩
  | error e => exact ⟨rfl, fun ok => by cases ok⟩

theorem Concurs.behind {r r' : Assigned} (same : Concurs r r') (wrap : Value → Value) :
    Concurs (r.1, wrap r.2) (r'.1, wrap r'.2) :=
  ⟨same.1, fun ok => congrArg wrap (same.2 ok)⟩

/-- What an assignment does after another one, given that filling is so. -/
theorem concurs_assignWith {fill fill' again : Content → Assigned} {l l' : Literal}
    (some : l ≠ .null) (some' : l' ≠ .null)
    (fills : ∀ content y, fill content = (.ok (), y) →
      Concurs (fill' content) (y.assignWith again l')) :
    ∀ v y : Value, v.assignWith fill l = (.ok (), y) →
      Concurs (v.assignWith fill' l') (y.assignWith again l')
  | .bool _, _, ok => by
    obtain ⟨_, rfl⟩ := made_of_adopt ok
    exact concurs_adopt _ _ _ _
  | .integer _ _, _, ok => by
    obtain ⟨_, rfl⟩ := made_of_adopt ok
    exact concurs_adopt _ _ _ _
  | .single _, _, ok => by
    obtain ⟨_, rfl⟩ := made_of_adopt ok
    exact concurs_adopt _ _ _ _
  | .double _, _, ok => by
    obtain ⟨_, rfl⟩ := made_of_adopt ok
    exact concurs_adopt _ _ _ _
  | .text _, _, ok => by
    obtain ⟨_, rfl⟩ := made_of_adopt ok
    exact concurs_adopt _ _ _ _
  | .json j, y, ok => by
    cases ok
    exact ⟨rfl, fun _ => rfl⟩
  | .absent content, y, ok => by
    rw [assignWith, if_neg some] at ok
    rw [assignWith, if_neg some']
    exact fills content y ok
  | .present content target, y, ok => by
    rw [assignWith, if_neg some] at ok
    rw [assignWith, if_neg some']
    obtain ⟨inner, rfl⟩ := Prod.mk.inj ok
    rw [assignWith, if_neg some']
    have behind := concurs_assignWith some some' fills target _ (Prod.ext inner rfl)
    exact behind.behind (present content)
  | .boxed target, y, ok => by
    rw [assignWith] at ok
    rw [assignWith]
    obtain ⟨inner, rfl⟩ := Prod.mk.inj ok
    rw [assignWith]
    have behind := concurs_assignWith some some' fills target _ (Prod.ext inner rfl)
    exact behind.behind boxed
  | .fixedText _, y, ok | .seq _, y, ok | .map _, y, ok | .record _ _, y, ok
  | .entry _ _, y, ok => by cases ok

theorem concurs_fillWith {l l' : Literal} (some : l ≠ .null) (some' : l' ≠ .null)
    (again : Content → Assigned) (depth : Nat) (content : Content) {y : Value}
    (ok : fillWith l depth content = (.ok (), y)) :
    Concurs (fillWith l' depth content) (y.assignWith again l') := by
  induction depth generalizing content y with
  | zero => cases ok
  | succ depth ih =>
    rw [fillWith] at ok
    obtain ⟨inner, rfl⟩ := Prod.mk.inj ok
    rw [fillWith, assignWith, if_neg some']
    have fills : ∀ content y, fillWith l depth content = (.ok (), y) →
        Concurs (fillWith l' depth content) (y.assignWith again l') := fun content y => ih content
    have behind := concurs_assignWith some some' fills content.zero _ (Prod.ext inner rfl)
    exact behind.behind (present content)

/-- After an assignment that succeeded, another one does what it would have done before. -/
theorem concurs_set {l l' : Literal} (some : l ≠ .null) (some' : l' ≠ .null) {v y : Value}
    (ok : v.set l = (.ok (), y)) : Concurs (v.set l') (y.set l') :=
  concurs_assignWith some some'
    (fun content _ ok => concurs_fillWith some some' _ content.fillDepth content ok) v y ok

/-- Assigning any text to one value ends like assigning it to the other. -/
def Alike (v v' : Value) : Prop :=
  ∀ text : String, Concurs (v.set (.str text)) (v'.set (.str text))

theorem Alike.refl (v : Value) : v.Alike v :=
  fun _ => ⟨rfl, fun _ => rfl⟩

theorem Alike.symm {v v' : Value} (alike : v.Alike v') : v'.Alike v :=
  fun text => ⟨(alike text).1.symm, fun ok => ((alike text).2 ((alike text).1.trans ok)).symm⟩

theorem Alike.trans {v v' v'' : Value} (alike : v.Alike v') (alike' : v'.Alike v'') :
    v.Alike v'' := by
  refine fun text => ⟨(alike text).1.trans (alike' text).1, fun ok => ?_⟩
  exact ((alike text).2 ok).trans ((alike' text).2 ((alike text).1.symm.trans ok))

/-- Alike values are left alike by an assignment, if it succeeds. -/
theorem Alike.set {v v' y : Value} (alike : v.Alike v') {text : String}
    (ok : v.set (.str text) = (.ok (), y)) : v'.set (.str text) = (.ok (), y) := by
  obtain ⟨outcome, left⟩ := alike text
  rw [ok] at outcome left
  exact Prod.ext outcome.symm (left rfl).symm

theorem alike_of_set {v y : Value} {text : String} (ok : v.set (.str text) = (.ok (), y)) :
    v.Alike y :=
  fun _ => concurs_set (by simp) (by simp) ok

end Value

end RecordRules

import Mathlib.Data.List.Basic
import Mathlib.Data.List.Induction
import RecordRules.Proofs.Text.Utf8
import RecordRules.Value.Path

/-!
# Going back on a path

Pushes and pops come in any order, and a path keeps its steps, its name and its marks on three
stacks.  Which path they lead to depends on the pushes alone that no pop takes back (`pending`): it
is the path of these pushes and no others (`after_of_pending`).  For a pop finds the name that the
path had before its newest step by the newest mark alone, and this mark is where that name ended
(`FieldPath.pop_push`).
-/

namespace RecordRules

namespace FieldPath

/-- A way to go on from a location. -/
inductive Push where
  | field (index : Nat) (segment : String)
  | index (index : Nat)
  | deref
deriving DecidableEq

/-- The step that is added. -/
def Push.step : Push → Step
  | .field i _ => .field i
  | .index i => .index i
  | .deref => .deref

/-- What is done with a path. -/
inductive Change where
  | push (push : Push)
  | pop
deriving DecidableEq

/-- The path after a push. -/
def goOn (p : FieldPath) : Push → FieldPath
  | .field index segment => p.pushField index segment
  | .index index => p.pushIndex index
  | .deref => p.pushDeref

/-- The path after a change. -/
def perform (p : FieldPath) : Change → FieldPath
  | .push push => p.goOn push
  | .pop => p.pop

/-- The path to which changes lead from the root. -/
def after (changes : List Change) : FieldPath :=
  changes.foldl perform root

/-- The pushes that a change leaves of those before it; a pop takes back the newest, if there is
one. -/
def Change.leaves (pushes : List Push) : Change → List Push
  | .push newest => pushes ++ [newest]
  | .pop => pushes.dropLast

/-- The pushes that changes do not take back, in order. -/
def pending (changes : List Change) : List Push :=
  changes.foldl Change.leaves []

/-- Each pop takes back a push among these changes, and they take back all their pushes. -/
inductive Matched : List Change → Prop
  | nil : Matched []
  | pair {push : Push} {inner rest : List Change} : Matched inner → Matched rest →
    Matched (.push push :: (inner ++ .pop :: rest))

/-! ## One change -/

/-- A pop takes back what any push has added. -/
theorem pop_push (p : FieldPath) (step : Step) (addition : String) :
    (p.push step addition).pop = p := by
  rw [push, pop]
  simp only [endAtByte?_append, Option.getD_some, List.drop_succ_cons, List.drop_zero]

theorem exists_push (p : FieldPath) (push : Push) :
    ∃ addition, p.goOn push = p.push push.step addition := by
  cases push with
  | field index segment => exact ⟨_, rfl⟩
  | index index => exact ⟨_, rfl⟩
  | deref => exact ⟨_, rfl⟩

theorem pop_goOn (p : FieldPath) (push : Push) : (p.goOn push).pop = p := by
  obtain ⟨addition, is⟩ := p.exists_push push
  rw [is, pop_push]

/-- The stacks of a path agree with the pushes that lead to it. -/
structure InStep (p : FieldPath) (pushes : List Push) : Prop where
  steps : p.steps = pushes.map Push.step
  marks : p.marks.length = p.steps.length
  boundaries : ∀ mark ∈ p.marks, ∃ front rest, splitAtByte? mark p.name.toList = some (front, rest)

theorem inStep_root : InStep root [] :=
  ⟨rfl, rfl, by simp [root]⟩

/-- A push marks the end of the name as it was, and the marks in it stay boundaries when the name
gets longer. -/
theorem InStep.goOn {p : FieldPath} {pushes : List Push} (inStep : InStep p pushes) (push : Push) :
    InStep (p.goOn push) (pushes ++ [push]) := by
  obtain ⟨addition, is⟩ := p.exists_push push
  rw [is]
  refine ⟨?_, ?_, fun mark mem => ?_⟩
  · rw [steps_push, inStep.steps, List.map_append, List.map_singleton]
  · rw [steps_push, List.length_append, ← inStep.marks]
    rfl
  · have name : (p.push push.step addition).name.toList = p.name.toList ++ addition.toList :=
      String.toList_append
    rw [name]
    rcases List.mem_cons.mp mem with rfl | mem
    · exact ⟨_, _, splitAtByte?_eq_some_iff.mpr ⟨rfl, rfl⟩⟩
    · obtain ⟨front, rest, split⟩ := inStep.boundaries mark mem
      obtain ⟨whole, here⟩ := splitAtByte?_eq_some_iff.mp split
      rw [whole, List.append_assoc]
      exact ⟨_, _, splitAtByte?_eq_some_iff.mpr ⟨rfl, here⟩⟩

/-! ## Runs of changes -/

theorem after_concat (changes : List Change) (change : Change) :
    after (changes ++ [change]) = (after changes).perform change := by
  rw [after, List.foldl_append]
  rfl

theorem pending_concat (changes : List Change) (change : Change) :
    pending (changes ++ [change]) = change.leaves (pending changes) := by
  rw [pending, List.foldl_append]
  rfl

/-- A change after some pushes leads where the pushes lead that it leaves of them. -/
theorem perform_after_pushes (pushes : List Push) (change : Change) :
    (after (pushes.map .push)).perform change = after ((change.leaves pushes).map .push) := by
  cases change with
  | push push =>
    rw [Change.leaves, List.map_append, List.map_singleton, after_concat]
  | pop =>
    rcases List.eq_nil_or_concat' pushes with rfl | ⟨others, newest, rfl⟩
    · rfl
    · rw [Change.leaves, List.dropLast_concat, List.map_append, List.map_singleton, after_concat]
      exact pop_goOn _ newest

/-- The pushes that are not taken back lead to the same path by themselves. -/
theorem after_eq_after_pending (changes : List Change) :
    after changes = after ((pending changes).map .push) := by
  induction changes using List.reverseRecOn with
  | nil => rfl
  | append_singleton changes change ih =>
    rw [after_concat, ih, perform_after_pushes, pending_concat]

theorem inStep_after_pushes (pushes : List Push) : InStep (after (pushes.map .push)) pushes := by
  induction pushes using List.reverseRecOn with
  | nil => exact inStep_root
  | append_singleton pushes push ih =>
    rw [List.map_append, List.map_singleton, after_concat]
    exact ih.goOn push

/-- Changes that take back all their pushes lead back, from any location. -/
theorem foldl_matched {changes : List Change} (matched : Matched changes) (p : FieldPath) :
    changes.foldl perform p = p := by
  induction matched generalizing p with
  | nil => rfl
  | @pair push inner rest _ _ inner_ih rest_ih =>
    rw [List.foldl_cons, List.foldl_append, inner_ih, List.foldl_cons]
    exact (congrArg (rest.foldl perform) (p.pop_goOn push)).trans (rest_ih p)

/-- Any pushes and pops from the root on lead to the path that the pushes lead to which no pop takes
back; its steps are theirs, in order.  A pop undoes the push that it belongs to, whatever is done
and undone in between, and at the root it does nothing.  There is a mark for each step, and all
marks are character boundaries of the name. -/
theorem after_of_pending (changes : List Change) :
    (after changes).steps = (pending changes).map Push.step ∧
    after changes = after ((pending changes).map .push) ∧
    (∀ push inner, Matched inner →
      after (changes ++ .push push :: (inner ++ [.pop])) = after changes) ∧
    ((after changes).isRoot = true → (after changes).pop = after changes) ∧
    (after changes).marks.length = (after changes).steps.length ∧
    ∀ mark ∈ (after changes).marks, ∃ front rest,
      splitAtByte? mark (after changes).name.toList = some (front, rest) := by
  have alone := after_eq_after_pending changes
  have inStep : InStep (after changes) (pending changes) := alone ▸ inStep_after_pushes _
  refine ⟨inStep.steps, alone, fun push inner matched => ?_, fun atRoot => ?_, inStep.marks,
    inStep.boundaries⟩
  · rw [after, List.foldl_append]
    exact foldl_matched (.pair matched .nil) _
  · have noSteps : (pending changes).map Push.step = [] := by
      rw [← inStep.steps, steps, List.isEmpty_iff.mp atRoot, List.reverse_nil]
    rw [alone, List.map_eq_nil_iff.mp noSteps]
    rfl

/-- A field without a name, then one whose name has two bytes, a pointer and an element that is
left again. -/
theorem after_of_pending_of_empty_segment :
    let changes : List Change := [.pop, .push (.field 0 ""), .push (.field 1 "é"), .push .deref,
      .push (.index 12), .pop]
    let inner : List Change := [.push (.field 2 "x"), .push .deref, .pop, .pop]
    Matched inner ∧ (after changes).steps = [.field 0, .field 1, .deref] ∧
      (after changes).name = "é" ∧ 2 ∈ (after changes).marks ∧
      after (changes ++ .push (.index 3) :: (inner ++ [.pop])) = after changes ∧
      ∃ front rest, splitAtByte? 2 (after changes).name.toList = some (front, rest) := by
  intro changes inner
  have matched : Matched inner := .pair (.pair .nil .nil) .nil
  have mark : 2 ∈ (after changes).marks := by decide +kernel
  obtain ⟨steps, alone, undone, -, -, boundaries⟩ := after_of_pending changes
  refine ⟨matched, steps, ?_, mark, undone _ _ matched, boundaries 2 mark⟩
  rw [alone]
  decide +kernel

end FieldPath

end RecordRules

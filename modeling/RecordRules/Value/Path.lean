import RecordRules.Text.Code

/-!
# Field paths

Where a field lies below the root of a value: the steps that lead to it, and the name
under which it is shown.  The name is dotted, sequence elements appear as `Items[3]`,
and going through a pointer adds nothing to it.

A path is a stack.  With each step goes a mark, the number of bytes that the name had before
it, so that `FieldPath.pop` takes off what the last step added.
-/

namespace RecordRules

/-- One step from a value to a value inside it. -/
inductive Step where
  | field (index : Nat)
  | index (index : Nat)
  | deref
deriving DecidableEq, Repr

namespace Step

/-- A short text for messages. -/
def describe : Step → String
  | .field i => "Field(" ++ toString i ++ ")"
  | .index i => "Index(" ++ toString i ++ ")"
  | .deref => "Deref"

end Step

/-- The location of a field.  Steps and marks have their newest element first. -/
structure FieldPath where
  newestFirst : List Step := []
  name : String := ""
  marks : List Nat := []
deriving DecidableEq

namespace FieldPath

/-- The location of the root. -/
def root : FieldPath := {}

/-- The steps from the root on. -/
def steps (p : FieldPath) : List Step :=
  p.newestFirst.reverse

/-- No step leads to the location. -/
def isRoot (p : FieldPath) : Bool :=
  p.newestFirst.isEmpty

/-- The newest step. -/
def last? (p : FieldPath) : Option Step :=
  p.newestFirst.head?

/-- Adds a step and what it adds to the name. -/
def push (p : FieldPath) (step : Step) (addition : String) : FieldPath :=
  ⟨step :: p.newestFirst, p.name ++ addition, byteLength p.name.toList :: p.marks⟩

/-- Goes to a field, shown under a segment. -/
def pushField (p : FieldPath) (index : Nat) (segment : String) : FieldPath :=
  p.push (.field index) (if p.name.isEmpty then segment else "." ++ segment)

/-- Goes to an element of a sequence. -/
def pushIndex (p : FieldPath) (index : Nat) : FieldPath :=
  p.push (.index index) ("[" ++ toString index ++ "]")

/-- Goes to the target of a pointer. -/
def pushDeref (p : FieldPath) : FieldPath :=
  p.push .deref ""

/-- Takes back the newest step.  A name cannot be cut inside a character, and no mark stands
there. -/
def pop (p : FieldPath) : FieldPath where
  newestFirst := p.newestFirst.drop 1
  name := match p.marks with
    | [] => p.name
    | mark :: _ => (endAtByte? mark p.name).getD p.name
  marks := p.marks.drop 1

end FieldPath

theorem steps_push (path : FieldPath) (step : Step) (addition : String) :
    (path.push step addition).steps = path.steps ++ [step] :=
  List.reverse_cons

end RecordRules

import RecordRules.Check.Basic

/-!
# Validators

A validator combines checks: all of several, any of several, one for every element of a
sequence or for every part of a map.  `Validator.run` evaluates one from left to right
and stops as soon as the outcome is known.  What a single check does, and how the fields
of a nested structure are validated, is left to a `Runner`, so that the same evaluation
can be traced, counted or compared.
-/

namespace RecordRules

/-- A part of a map. -/
inductive MapPart where
  | key | value | entry
deriving DecidableEq, Repr

namespace MapPart

/-- The name of the validators of the part in rules. -/
def name : MapPart → String
  | key => "mapk"
  | value => "mapv"
  | entry => "mapkv"

/-- The part of an entry. -/
def target (part : MapPart) (entry : Value × Value) : Value :=
  match part with
  | key => entry.1
  | value => entry.2
  | .entry => .entry entry.1 entry.2

/-- How messages name the part that belongs to a key. -/
def label (part : MapPart) (key : String) : String :=
  match part with
  | .key => "key " ++ key
  | value => "value of key " ++ key
  | entry => "entry " ++ key

end MapPart

/-- A combination of checks. -/
inductive Validator where
  | check (c : Check)
  /-- The validation of the fields of a nested structure. -/
  | nested
  | all (parts : List Validator)
  | any (parts : List Validator)
  | items (inner : Validator)
  | parts (part : MapPart) (inner : Validator)
  | not (inner : Validator)

instance : Inhabited Validator := ⟨.nested⟩

namespace Validator

/-- All of several validators; a single one is that validator itself. -/
def conj : List Validator → Validator
  | [v] => v
  | vs => all vs

mutual

/-- The rule text of a validator. -/
def rule : Validator → String
  | check c => c.rule
  | nested => "structure"
  | all vs => " && ".intercalate (rules vs)
  | any vs => "(" ++ " || ".intercalate (rules vs) ++ ")"
  | items inner => "array(" ++ inner.rule ++ ")"
  | parts part inner => part.name ++ "(" ++ inner.rule ++ ")"
  | not inner => "not(" ++ inner.rule ++ ")"

/-- The rule texts of validators. -/
def rules : List Validator → List String
  | [] => []
  | v :: vs => v.rule :: rules vs

end

mutual

/-- The validator looks at the fields of nested structures itself. -/
def descends : Validator → Bool
  | check c => c.descends
  | nested => true
  | all vs => someDescends vs
  | any vs => someDescends vs
  | items inner => inner.descends
  | parts _ inner => inner.descends
  | not _ => false

/-- One of the validators does. -/
def someDescends : List Validator → Bool
  | [] => false
  | v :: vs => v.descends || someDescends vs

end

/-- A short text for messages. -/
def describe (v : Validator) : String :=
  "Validator(" ++ quoted v.rule ++ ")"

/-- What running a validator needs: the run of a check, and the validation of a nested
structure, each for a root and a value. -/
structure Runner (m : Type → Type) where
  check : Check → Option Value → Value → m Outcome
  nested : Option Value → Value → m Outcome

/-- How a key is named in paths and messages. -/
def keyText (key : Value) : String :=
  match key.literal? with
  | some l => l.text
  | none => key.describe

section run

variable {m : Type → Type} [Monad m]

/-- Runs a check on each of several values up to the first failure, which is then told
where it happened. -/
def runEach {α : Type} (run : α → m Outcome) (locate : α → Failure → Failure) :
    List α → m Outcome
  | [] => pure (.ok ())
  | x :: xs => do
    match ← run x with
    | .ok () => runEach run locate xs
    | .error e => return .error (locate x e)

mutual

/-- Evaluates a validator. -/
def run (r : Runner m) (root : Option Value) : Validator → Value → m Outcome
  | check c, v => r.check c root v
  | nested, v => r.nested root v
  | all vs, v => runAll r root vs v
  | any vs, v => runAny r root vs (.ok ()) v
  | items inner, v =>
    match v.indirect.view with
    | .seq elements =>
      runEach (fun element => run r root inner element.1)
        (fun element e =>
          let index := toString element.2
          e.inside ("index " ++ index) ("[" ++ index ++ "]"))
        elements.zipIdx
    | .null => pure (.ok ())
    | other => pure (.error (.unsupported "array" other.kind.name))
  | parts part inner, v =>
    match v.indirect.view with
    | .map entries =>
      runEach (fun entry => run r root inner (part.target entry))
        (fun entry e =>
          let key := keyText entry.1
          e.inside (part.label key) ("[" ++ key ++ "]"))
        entries
    | .null => pure (.ok ())
    | other => pure (.error (.unsupported part.name other.kind.name))
  | not inner, v => do
    match ← run r root inner v with
    | .ok () => return .error { code := "not", message := inner.rule ++ " holds" }
    | .error _ => return .ok ()

/-- Evaluates validators up to the first that fails. -/
def runAll (r : Runner m) (root : Option Value) : List Validator → Value → m Outcome
  | [], _ => pure (.ok ())
  | part :: rest, v => do
    match ← run r root part v with
    | .ok () => runAll r root rest v
    | .error e => return .error e

/-- Evaluates validators up to the first that passes; the outcome so far is that of the
last one before. -/
def runAny (r : Runner m) (root : Option Value) : List Validator → Outcome → Value → m Outcome
  | [], soFar, _ => pure soFar
  | part :: rest, _, v => do
    match ← run r root part v with
    | .ok () => return .ok ()
    | .error e => runAny r root rest (.error e) v

end

end run

end Validator

end RecordRules

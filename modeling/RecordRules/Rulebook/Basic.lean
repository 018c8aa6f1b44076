import RecordRules.Memo
import RecordRules.Rule.Builder
import RecordRules.Rule.Parse
import RecordRules.Rulebook.Function
import RecordRules.Table

/-!
# Rulebooks

A rulebook gives the names in rules a meaning: functions, and symbols for constants and
validators.  It compiles a rule by driving a builder whose contexts collect validators,
and remembers every rule that it has compiled.

* A bare name is the function of that name without arguments; without such a function it
  is a symbol.
* Each text is compiled once.  What is registered later does not change it.
-/

namespace RecordRules

/-- The meaning of names, and the rules compiled so far. -/
structure Rulebook where
  functions : Table Function := {}
  symbols : Table Argument := {}
  compiled : Memo String Handle := .empty
  /-- How many rule texts have been parsed. -/
  parses : Nat := 0

namespace Rulebook

/-- The rulebook with the standard functions. -/
def standard : Rulebook where
  functions := .ofList (Function.standard.map fun f => (f.name, f))

/-- A short text for messages. -/
def describe (book : Rulebook) : String :=
  "RuleBuilder \x7b functions: " ++ toString book.functions.size ++
    ", symbols: " ++ toString book.symbols.size ++
    ", cached_rules: " ++ toString book.compiled.size ++ " \x7d"

/-- Registers a function under its name, instead of one of the same name. -/
def addFunction (book : Rulebook) (f : Function) : Rulebook :=
  { book with functions := book.functions.insert f.name f }

/-- Registers a symbol, instead of one of the same name. -/
def addSymbol (book : Rulebook) (name : String) (value : Argument) : Rulebook :=
  { book with symbols := book.symbols.insert name value }

/-- What a bare name stands for. -/
def resolve (book : Rulebook) (serial : Nat) (name : String) : Except BuildError Argument :=
  match book.functions.get? name with
  | some f => (f.build []).map fun v => .rule ⟨serial, v⟩
  | none =>
    match book.symbols.get? name with
    | some value => .ok value
    | none => .error (.unknown name)

/-- The validators that a context has collected, as one. -/
def conj (serial : Nat) : List Handle → Handle
  | [handle] => handle
  | handles => ⟨serial, .conj (handles.map Handle.validator)⟩

/-- The argument that a builder receives, resolved. -/
def lower (book : Rulebook) (serial : Nat) : Arg (List Handle) → Except BuildError Argument
  | .integer n => .ok (.int n)
  | .float x => .ok (.float x)
  | .string s => .ok (.str s)
  | .boolean b => .ok (.bool b)
  | .ident name => book.resolve serial name
  | .context handles => .ok (.rule (conj serial handles))

/-- The builder of a compilation with a serial number; contexts are the validators
collected so far. -/
def builder (book : Rulebook) (serial : Nat) : Builder (Except BuildError) (List Handle) where
  newContext := .ok []
  and handles sub := .ok (handles ++ [conj serial sub])
  or handles sub := .ok (handles ++ [⟨serial, .any (sub.map Handle.validator)⟩])
  ident handles name :=
    match book.resolve serial name with
    | .ok (.rule handle) => .ok (handles ++ [handle])
    | .ok _ => .error (.notValidator name)
    | .error e => .error e
  call handles name args :=
    match book.functions.get? name with
    | none => .error (.unknown name)
    | some f => do
      let args ← args.mapM (book.lower serial)
      return handles ++ [⟨serial, ← f.build args⟩]

/-- The validator of a rule expression. -/
def compileExpr (book : Rulebook) (serial : Nat) (e : Expr) : Except BuildError Handle :=
  ((book.builder serial).build e).map (conj serial)

/-- The validator of a rule text. -/
def compile (book : Rulebook) (serial : Nat) (rule : String) : Except BuildError Handle :=
  match Expr.parse rule with
  | .ok e => book.compileExpr serial e
  | .error e => .error (.invalidSyntax e)

/-- The validator of a rule text, compiled now unless it has been before. -/
def build (book : Rulebook) (rule : String) : Except BuildError Handle × Rulebook :=
  match book.compiled.get? rule with
  | some handle => (.ok handle, book)
  | none =>
    let serial := book.parses + 1
    match book.compile serial rule with
    | .ok handle =>
      (.ok handle, { book with parses := serial, compiled := book.compiled.remember rule handle })
    | .error e => (.error e, { book with parses := serial })

end Rulebook

end RecordRules

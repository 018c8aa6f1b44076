import RecordRules.Check.Validator
import RecordRules.Rule.Token

/-!
# Arguments of rule functions

A rule function receives resolved arguments.  It first counts them and then takes each
one by its type; whatever it finds wrong is a `BuildError` that names the function.
-/

namespace RecordRules

/-- A validator that a rulebook has compiled.  The serial number tells which compilation
made it, so two handles with one number are one validator. -/
structure Handle where
  serial : Nat
  validator : Validator

/-- A resolved argument. -/
inductive Argument where
  | int (value : Int64)
  | float (value : Double)
  | str (value : String)
  | bool (value : Bool)
  | rule (handle : Handle)

/-- How many arguments a function takes. -/
inductive Arity where
  | exactly (count : Nat)
  | atLeast (count : Nat)
deriving DecidableEq, Repr

namespace Arity

/-- How messages name a number of arguments. -/
def describe : Arity → String
  | exactly count => toString count
  | atLeast count => "at least " ++ toString count

/-- So many arguments are allowed. -/
def Allows : Arity → Nat → Bool
  | exactly count, n => n == count
  | atLeast count, n => count ≤ n

end Arity

/-- Why a rule cannot be built. -/
inductive BuildError where
  | invalidSyntax (e : SyntaxError)
  | unknown (name : String)
  | notValidator (name : String)
  | arity (function : String) (expected : Arity) (found : Nat)
  | argumentType (function : String) (index : Nat) (expected found : String)
  | invalidArgument (function message : String)
deriving DecidableEq

/-- The stable code of a syntax error. -/
def SyntaxError.code : SyntaxError → String
  | empty => "RULE:EMPTY"
  | unexpectedChar .. => "RULE:CHAR"
  | unterminatedString .. => "RULE:STRING"
  | invalidNumber .. => "RULE:NUMBER"
  | unexpectedToken .. => "RULE:SYNTAX"

namespace BuildError

/-- The stable code of a build error. -/
def code : BuildError → String
  | invalidSyntax e => e.code
  | unknown _ => "RULE:UNKNOWN"
  | notValidator _ => "RULE:NOT_VALIDATOR"
  | arity .. => "RULE:ARITY"
  | argumentType .. => "RULE:ARG_TYPE"
  | invalidArgument .. => "RULE:ARG_INVALID"

/-- The message of a build error. -/
def message : BuildError → String
  | invalidSyntax e => e.message
  | unknown name => "unknown function or symbol `" ++ name ++ "`"
  | notValidator name => "symbol `" ++ name ++ "` is not a validator"
  | arity function expected found =>
    "`" ++ function ++ "` expects " ++ expected.describe ++ " argument(s), got " ++ toString found
  | argumentType function index expected found =>
    "`" ++ function ++ "` argument " ++ toString index ++ " must be " ++ expected ++ ", got " ++
      found
  | invalidArgument function message => "`" ++ function ++ "`: " ++ message

end BuildError

namespace Argument

/-- What messages call an argument. -/
def typeName : Argument → String
  | int _ => "an integer"
  | float _ => "a float"
  | str _ => "a string"
  | bool _ => "a boolean"
  | rule _ => "a validator"

/-- The number; integers count too. -/
def number? : Argument → Option Double
  | int n => some (.ofInt n.toInt)
  | float x => some x
  | _ => none

/-- The integer. -/
def integer? : Argument → Option Int64
  | int n => some n
  | _ => none

/-- The text. -/
def text? : Argument → Option String
  | str s => some s
  | _ => none

/-- The validator. -/
def validator? : Argument → Option Validator
  | rule handle => some handle.validator
  | _ => none

/-- The argument without the number of the compilation that made it. -/
def anonymous : Argument → Argument
  | rule handle => rule ⟨0, handle.validator⟩
  | arg => arg

@[simp] theorem typeName_anonymous (arg : Argument) : arg.anonymous.typeName = arg.typeName := by
  cases arg <;> rfl

@[simp] theorem number?_anonymous (arg : Argument) : arg.anonymous.number? = arg.number? := by
  cases arg <;> rfl

@[simp] theorem integer?_anonymous (arg : Argument) : arg.anonymous.integer? = arg.integer? := by
  cases arg <;> rfl

@[simp] theorem text?_anonymous (arg : Argument) : arg.anonymous.text? = arg.text? := by
  cases arg <;> rfl

@[simp] theorem validator?_anonymous (arg : Argument) :
    arg.anonymous.validator? = arg.validator? := by
  cases arg <;> rfl

end Argument

namespace Arguments

/-- There are as many arguments as the function takes. -/
def check (function : String) (arity : Arity) (args : List Argument) : Except BuildError Unit :=
  if arity.Allows args.length then .ok () else .error (.arity function arity args.length)

/-- The argument at an index, read in one way; a missing one is counted as such. -/
def take {α : Type} (read : Argument → Option α) (expected function : String)
    (args : List Argument) (index : Nat) : Except BuildError α :=
  match args[index]? with
  | none => .error (.arity function (.atLeast (index + 1)) args.length)
  | some arg =>
    match read arg with
    | some x => .ok x
    | none => .error (.argumentType function index expected arg.typeName)

/-- The number at an index. -/
def number : String → List Argument → Nat → Except BuildError Double :=
  take Argument.number? "a number"

/-- The integer at an index. -/
def integer : String → List Argument → Nat → Except BuildError Int64 :=
  take Argument.integer? "an integer"

/-- The text at an index. -/
def text : String → List Argument → Nat → Except BuildError String :=
  take Argument.text? "a string"

/-- The validator at an index. -/
def validator : String → List Argument → Nat → Except BuildError Validator :=
  take Argument.validator? "a validator"

/-! Nothing that is asked of arguments depends on which compilation made them. -/

@[simp] theorem check_anonymous (function : String) (arity : Arity) (args : List Argument) :
    check function arity (args.map Argument.anonymous) = check function arity args := by
  simp only [check, List.length_map]

theorem take_anonymous {α : Type} {read : Argument → Option α}
    (same : ∀ arg, read arg.anonymous = read arg) (expected function : String)
    (args : List Argument) (index : Nat) :
    take read expected function (args.map Argument.anonymous) index =
      take read expected function args index := by
  simp only [take, List.getElem?_map, List.length_map]
  cases args[index]? with
  | none => rfl
  | some arg => simp only [Option.map_some, same, Argument.typeName_anonymous]

@[simp] theorem number_anonymous (function : String) (args : List Argument) :
    number function (args.map Argument.anonymous) = number function args :=
  funext fun index => take_anonymous Argument.number?_anonymous _ function args index

@[simp] theorem integer_anonymous (function : String) (args : List Argument) :
    integer function (args.map Argument.anonymous) = integer function args :=
  funext fun index => take_anonymous Argument.integer?_anonymous _ function args index

@[simp] theorem text_anonymous (function : String) (args : List Argument) :
    text function (args.map Argument.anonymous) = text function args :=
  funext fun index => take_anonymous Argument.text?_anonymous _ function args index

@[simp] theorem validator_anonymous (function : String) (args : List Argument) :
    validator function (args.map Argument.anonymous) = validator function args :=
  funext fun index => take_anonymous Argument.validator?_anonymous _ function args index

end Arguments

end RecordRules

import RecordRules.Rulebook.Argument

/-!
# Rule functions

A rule function turns arguments into a validator.  It sees what a validator among them
checks, but not which compilation made it.  Most functions take arguments of one type and
a fixed number; the constructors below say which, and check both before anything is made.
-/

namespace RecordRules

/-- A function that rules can call by name. -/
structure Function where
  name : String
  build : List Argument → Except BuildError Validator
  /-- Which compilation made an argument makes no difference. -/
  build_anonymous : ∀ args, build (args.map Argument.anonymous) = build args := by simp

namespace Function

/-- A short text for messages. -/
def describe (f : Function) : String :=
  "Function \x7b name: " ++ quoted f.name ++ " \x7d"

/-- A function without arguments. -/
def constant (name : String) (v : Validator) : Function where
  name := name
  build args := do
    Arguments.check name (.exactly 0) args
    return v

/-- A function of one number. -/
def ofNumber (name : String) (make : Double → Validator) : Function where
  name := name
  build args := do
    Arguments.check name (.exactly 1) args
    return make (← Arguments.number name args 0)

/-- A function of two numbers. -/
def ofTwoNumbers (name : String) (make : Double → Double → Validator) : Function where
  name := name
  build args := do
    Arguments.check name (.exactly 2) args
    return make (← Arguments.number name args 0) (← Arguments.number name args 1)

/-- A function of one integer. -/
def ofInteger (name : String) (make : Int64 → Validator) : Function where
  name := name
  build args := do
    Arguments.check name (.exactly 1) args
    return make (← Arguments.integer name args 0)

/-- A function of three integers. -/
def ofThreeIntegers (name : String) (make : Int64 → Int64 → Int64 → Validator) : Function where
  name := name
  build args := do
    Arguments.check name (.exactly 3) args
    return make (← Arguments.integer name args 0) (← Arguments.integer name args 1)
      (← Arguments.integer name args 2)

/-- A function of one text, which it may refuse with a message. -/
def ofText (name : String) (make : String → Except String Validator) : Function where
  name := name
  build args := do
    Arguments.check name (.exactly 1) args
    (make (← Arguments.text name args 0)).mapError (.invalidArgument name)

/-- A function of one or more texts. -/
def ofTexts (name : String) (make : List String → Validator) : Function where
  name := name
  build args := do
    Arguments.check name (.atLeast 1) args
    return make (← (List.range args.length).mapM (Arguments.text name args))

/-- A function of one or more validators. -/
def ofValidators (name : String) (make : List Validator → Validator) : Function where
  name := name
  build args := do
    Arguments.check name (.atLeast 1) args
    return make (← (List.range args.length).mapM (Arguments.validator name args))

/-- The opposite of a validator.  It is not a standard function, but can be added to them. -/
def negation (name : String) : Function where
  name := name
  build args := do
    Arguments.check name (.exactly 1) args
    return .not (← Arguments.validator name args 0)

/-- The check that a text matches a pattern, if it spells one. -/
def matching (source : String) : Except String Validator :=
  match Pattern.read source with
  | .ok pattern => .ok (.check (.matching source pattern))
  | .error e => .error e.message

/-- The function of a text format. -/
def ofFormat (format : TextFormat) : Function :=
  constant format.name (.check (.hasFormat format))

/-- The functions that every standard rulebook has. -/
def standard : List Function :=
  [constant "zero" (.check .zero),
    constant "required" (.check .required),
    ofNumber "min" fun bound => .check (.atLeast bound),
    ofNumber "max" fun bound => .check (.atMost bound),
    ofTwoNumbers "ranger" fun low high => .check (.within low high),
    ofInteger "len" fun expected => .check (.lengthIs expected),
    ofTexts "oneof" fun allowed => .check (.oneOf allowed),
    ofThreeIntegers "exp" fun base start finish => .check (.powerOf base start finish),
    ofText "regexp" matching,
    constant "structure" .nested,
    ofValidators "array" fun vs => .items (.conj vs),
    ofValidators "mapk" fun vs => .parts .key (.conj vs),
    ofValidators "mapv" fun vs => .parts .value (.conj vs),
    ofValidators "mapkv" fun vs => .parts .entry (.conj vs)] ++
  TextFormat.all.map ofFormat

end Function

end RecordRules

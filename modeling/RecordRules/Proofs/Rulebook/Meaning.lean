import RecordRules.Rulebook.Basic

/-!
# What rules mean

The meaning of a rule expression for a rulebook, without contexts, builders or anything
that is remembered.

* `Expr.validator?` is the validator that an expression stands for, put together from
  those of its parts, if all of them can be had.
* `Expr.evaluate` checks a value against an expression directly: chains are evaluated
  operand by operand and no further than needed, and what they combine is the check that
  the function table makes of a name or a call.
* `Container.each` is what the functions for the parts of sequences and maps make of a check.
* `Expr.sites` lists the places of an expression that can fail to be built, in the order
  in which compilation gets to them.
-/

namespace RecordRules

/-! ## Validators -/

namespace Rulebook

/-- The validator that a bare name stands for: the function of that name without
arguments; without such a function, a symbol that is a validator. -/
def named (book : Rulebook) (name : String) : Except BuildError Validator :=
  match book.functions.get? name with
  | some f => f.build []
  | none =>
    match book.symbols.get? name with
    | some (.rule handle) => .ok handle.validator
    | some _ => .error (.notValidator name)
    | none => .error (.unknown name)

/-- The argument that a bare name stands for: the function of that name without
arguments; without such a function, a symbol. -/
def argumentNamed (book : Rulebook) (name : String) : Except BuildError Argument :=
  match book.functions.get? name with
  | some f => (f.build []).map fun v => .rule ⟨0, v⟩
  | none =>
    match book.symbols.get? name with
    | some value => .ok value
    | none => .error (.unknown name)

end Rulebook

mutual

/-- The validator that a rule stands for. -/
def Expr.validator? (book : Rulebook) : Expr → Option Validator
  | .and operands => (validators? book operands).map .conj
  | .or operands => (validators? book operands).map .any
  | .ident name => (book.named name).toOption
  | .call name args => do
    let f ← book.functions.get? name
    (f.build (← arguments? book args)).toOption
  | .eq name value => do
    let f ← book.functions.get? name
    (f.build [← value.argument? book]).toOption

/-- The validators that rules stand for. -/
def validators? (book : Rulebook) : List Expr → Option (List Validator)
  | [] => some []
  | rule :: rules => do return (← rule.validator? book) :: (← validators? book rules)

/-- The argument that a function receives. -/
def ArgExpr.argument? (book : Rulebook) : ArgExpr → Option Argument
  | .integer value => some (.int value)
  | .float value => some (.float value)
  | .string value => some (.str value)
  | .boolean value => some (.bool value)
  | .expr (.ident name) => (book.argumentNamed name).toOption
  | .expr rule => (rule.validator? book).map fun v => .rule ⟨0, v⟩

/-- The arguments that a function receives. -/
def arguments? (book : Rulebook) : List ArgExpr → Option (List Argument)
  | [] => some []
  | arg :: args => do return (← arg.argument? book) :: (← arguments? book args)

end

theorem validators?_cons {book : Rulebook} {rule : Expr} {rules : List Expr}
    {ws : List Validator} :
    validators? book (rule :: rules) = some ws ↔ ∃ w, rule.validator? book = some w ∧
      ∃ ws', validators? book rules = some ws' ∧ w :: ws' = ws := by
  rw [validators?]
  simp [Option.bind_eq_some_iff]

theorem arguments?_cons {book : Rulebook} {arg : ArgExpr} {args : List ArgExpr}
    {arguments : List Argument} :
    arguments? book (arg :: args) = some arguments ↔
      ∃ argument, arg.argument? book = some argument ∧
        ∃ others, arguments? book args = some others ∧ argument :: others = arguments := by
  rw [arguments?]
  simp [Option.bind_eq_some_iff]

/-! ## Evaluation -/

section evaluation

variable {m : Type → Type} [Monad m]

/-- Runs the check that a name or a call stands for. -/
def runCheck (r : Validator.Runner m) (root : Option Value) (v : Value) :
    Option Validator → m Outcome
  | some check => check.run r root v
  | none => pure (.ok ())

mutual

/-- Checks a value against a rule. -/
def Expr.evaluate (book : Rulebook) (r : Validator.Runner m) (root : Option Value) (v : Value) :
    Expr → m Outcome
  | .and operands => evaluateAll book r root v operands
  | .or operands => evaluateAny book r root v operands
  | .ident name => runCheck r root v (book.named name).toOption
  | .call name args => runCheck r root v ((Expr.call name args).validator? book)
  | .eq name value => runCheck r root v ((Expr.eq name value).validator? book)

/-- Checks a value against rules up to the first that fails. -/
def evaluateAll (book : Rulebook) (r : Validator.Runner m) (root : Option Value) (v : Value) :
    List Expr → m Outcome
  | [] => pure (.ok ())
  | rule :: rules => do
    match ← rule.evaluate book r root v with
    | .ok () => evaluateAll book r root v rules
    | .error e => return .error e

/-- Checks a value against rules up to the first that passes; if none does, the outcome is
that of the last one. -/
def evaluateAny (book : Rulebook) (r : Validator.Runner m) (root : Option Value) (v : Value) :
    List Expr → m Outcome
  | [] => pure (.ok ())
  | [rule] => rule.evaluate book r root v
  | rule :: second :: rules => do
    match ← rule.evaluate book r root v with
    | .ok () => return .ok ()
    | .error _ => evaluateAny book r root v (second :: rules)

end

end evaluation

/-! ## Containers -/

/-- A function that hands each part of a value to the validators that it is given. -/
inductive Container where
  | items
  | parts (part : MapPart)

namespace Container

/-- The name in rules. -/
def name : Container → String
  | items => "array"
  | parts part => part.name

/-- The validator of all parts of a value. -/
def wrap : Container → Validator → Validator
  | items => .items
  | parts part => .parts part

/-- The function that rules call. -/
def function (c : Container) : Function :=
  .ofValidators c.name fun vs => c.wrap (.conj vs)

/-- Checks the parts of a value in turn, up to the first that fails, which is then named.
Absent values have no parts. -/
def each {m : Type → Type} [Monad m] (c : Container) (check : Value → m Outcome) (v : Value) :
    m Outcome :=
  match c, v.indirect.view with
  | items, .seq elements =>
    Validator.runEach (fun element => check element.1)
      (fun element e =>
        e.inside ("index " ++ toString element.2) ("[" ++ toString element.2 ++ "]"))
      elements.zipIdx
  | parts part, .map entries =>
    Validator.runEach (fun entry => check (part.target entry))
      (fun entry e =>
        e.inside (part.label (Validator.keyText entry.1))
          ("[" ++ Validator.keyText entry.1 ++ "]"))
      entries
  | _, .null => pure (.ok ())
  | c, other => pure (.error (.unsupported c.name other.kind.name))

end Container

/-! ## Places that can fail -/

/-- A place in a rule that compilation can fail at. -/
inductive Site where
  /-- A bare name among operands. -/
  | name (name : String)
  /-- A bare name as an argument. -/
  | argument (name : String)
  /-- The name of a function that is called. -/
  | function (name : String)
  /-- A call whose arguments are there. -/
  | call (name : String) (args : List ArgExpr)

namespace Site

/-- The error of a computation. -/
def errorOf? {α : Type} : Except BuildError α → Option BuildError
  | .error e => some e
  | .ok _ => none

/-- Why the place cannot be built. -/
def error? (book : Rulebook) : Site → Option BuildError
  | name n => errorOf? (book.named n)
  | argument n => errorOf? (book.argumentNamed n)
  | function n => if (book.functions.get? n).isNone then some (.unknown n) else none
  | call n args =>
    match book.functions.get? n with
    | none => some (.unknown n)
    | some f => (arguments? book args).bind fun args => errorOf? (f.build args)

end Site

mutual

/-- The places of a rule, those of arguments before the call and from left to right.  Bare
names as arguments come in their turn, or, if they wait, after the other arguments and
the name of the function. -/
def Expr.sites (wait : Bool) : Expr → List Site
  | .and operands => allSites wait operands
  | .or operands => allSites wait operands
  | .ident name => [.name name]
  | .call name args =>
    argSites wait args ++
      (if wait then .function name :: waiting args else []) ++ [.call name args]
  | .eq name value =>
    value.sites wait ++ (if wait then .function name :: waiting [value] else []) ++
      [.call name [value]]

/-- The places of rules. -/
def allSites (wait : Bool) : List Expr → List Site
  | [] => []
  | rule :: rules => rule.sites wait ++ allSites wait rules

/-- The places of an argument that come before the call. -/
def ArgExpr.sites (wait : Bool) : ArgExpr → List Site
  | .expr (.ident name) => if wait then [] else [.argument name]
  | .expr rule => rule.sites wait
  | _ => []

/-- The places of arguments that come before the call. -/
def argSites (wait : Bool) : List ArgExpr → List Site
  | [] => []
  | arg :: args => arg.sites wait ++ argSites wait args

/-- The bare names among arguments. -/
def waiting : List ArgExpr → List Site
  | [] => []
  | .expr (.ident name) :: args => .argument name :: waiting args
  | _ :: args => waiting args

end

/-- The error of the first place that cannot be built. -/
def Expr.firstError (book : Rulebook) (wait : Bool) (rule : Expr) : Option BuildError :=
  (rule.sites wait).findSome? (Site.error? book)

end RecordRules

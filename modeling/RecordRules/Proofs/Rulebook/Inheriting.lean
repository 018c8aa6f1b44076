import RecordRules.Proofs.Rulebook.Evaluation

/-!
# What compiled rules inherit

A rule is compiled to a validator that is made of what stands behind its names.  If these
validators have a property that `all` and `any` hand on, so has the compiled one
(`inherits_compile`).  The standard functions hand a property on if their checks have it, and
containers hand it on as well (`inherits_standard`).
-/

namespace RecordRules

/-! ## The names in a rule -/

mutual

/-- The names of functions and symbols that a rule mentions. -/
def Expr.names : Expr → List String
  | .and operands => allNames operands
  | .or operands => allNames operands
  | .ident name => [name]
  | .call name args => name :: argNames args
  | .eq name value => name :: value.names

/-- The names that rules mention. -/
def allNames : List Expr → List String
  | [] => []
  | rule :: rules => rule.names ++ allNames rules

/-- The names that an argument mentions. -/
def ArgExpr.names : ArgExpr → List String
  | .expr rule => rule.names
  | .integer _ | .float _ | .string _ | .boolean _ => []

/-- The names that arguments mention. -/
def argNames : List ArgExpr → List String
  | [] => []
  | arg :: args => arg.names ++ argNames args

end

/-! ## Properties of validators -/

section inheriting

variable (P : Validator → Prop)

/-- The argument has the property, if it is a validator. -/
def Argument.Has (arg : Argument) : Prop :=
  ∀ w, arg.validator? = some w → P w

/-- What the function makes of arguments with the property has the property. -/
def Function.Inherits (f : Function) : Prop :=
  ∀ args w, (∀ arg ∈ args, arg.Has P) → f.build args = .ok w → P w

/-- What stands behind a name has the property or hands it on. -/
structure Rulebook.Grants (book : Rulebook) (name : String) : Prop where
  function : ∀ f, book.functions.get? name = some f → f.Inherits P
  symbol : ∀ arg, book.symbols.get? name = some arg → arg.Has P

/-- Combinations of validators with the property have it. -/
structure Combines : Prop where
  all : ∀ ws : List Validator, (∀ w ∈ ws, P w) → P (.all ws)
  any : ∀ ws : List Validator, (∀ w ∈ ws, P w) → P (.any ws)

/-- Validators for the parts of sequences and maps have the property if their inner ones do. -/
structure Contains : Prop where
  items : ∀ w : Validator, P w → P (.items w)
  parts : ∀ (part : MapPart) (w : Validator), P w → P (.parts part w)

end inheriting

variable {P : Validator → Prop}

theorem Combines.conj (combines : Combines P) {ws : List Validator} (has : ∀ w ∈ ws, P w) :
    P (.conj ws) := by
  match ws with
  | [] => exact combines.all [] has
  | [w] => exact has w List.mem_cons_self
  | _ :: _ :: _ => exact combines.all _ has

/-! ## Rules -/

section rules

variable {book : Rulebook}

theorem inherits_named {name : String} (grants : book.Grants P name) {w : Validator}
    (named : book.named name = .ok w) : P w := by
  rw [Rulebook.named] at named
  cases known : book.functions.get? name with
  | some f =>
    rw [known] at named
    exact grants.function f known [] w (fun _ mem => by cases mem) named
  | none =>
    rw [known] at named
    cases symbol : book.symbols.get? name with
    | none =>
      rw [symbol] at named
      cases named
    | some arg =>
      rw [symbol] at named
      cases arg with
      | rule handle =>
        cases named
        exact grants.symbol _ symbol _ rfl
      | int _ | float _ | str _ | bool _ => cases named

theorem inherits_argumentNamed {name : String} (grants : book.Grants P name) {arg : Argument}
    (named : book.argumentNamed name = .ok arg) : arg.Has P := by
  rw [Rulebook.argumentNamed] at named
  cases known : book.functions.get? name with
  | some f =>
    rw [known] at named
    dsimp only at named
    cases built : f.build [] with
    | error e =>
      rw [built] at named
      cases named
    | ok w =>
      rw [built] at named
      cases named
      intro w' is
      cases is
      exact grants.function f known [] w (fun _ mem => by cases mem) built
  | none =>
    rw [known] at named
    cases symbol : book.symbols.get? name with
    | none =>
      rw [symbol] at named
      cases named
    | some value =>
      rw [symbol] at named
      cases named
      exact grants.symbol arg symbol

/-- A rule as an argument has the property if the validator that it stands for has. -/
theorem inherits_rule {rule : Expr} (not_ident : ∀ name, rule ≠ .ident name)
    (has : ∀ w, rule.validator? book = some w → P w) {argument : Argument}
    (is : (ArgExpr.expr rule).argument? book = some argument) : argument.Has P := by
  rw [argument?_rule not_ident] at is
  rcases Option.map_eq_some_iff.mp is with ⟨w, stands, rfl⟩
  intro w' given
  cases given
  exact has w stands

mutual

/-- A rule stands for a validator that has the property if all its names grant it. -/
theorem inherits_validator? (combines : Combines P) {rule : Expr}
    (grants : ∀ name ∈ rule.names, book.Grants P name) {w : Validator}
    (stands : rule.validator? book = some w) : P w := by
  match rule with
  | .and operands =>
    rw [Expr.names] at grants
    rw [Expr.validator?] at stands
    rcases Option.map_eq_some_iff.mp stands with ⟨ws, stand, rfl⟩
    exact combines.conj (inherits_validators? combines grants stand)
  | .or operands =>
    rw [Expr.names] at grants
    rw [Expr.validator?] at stands
    rcases Option.map_eq_some_iff.mp stands with ⟨ws, stand, rfl⟩
    exact combines.any ws (inherits_validators? combines grants stand)
  | .ident name =>
    rw [Expr.names] at grants
    rw [Expr.validator?] at stands
    exact inherits_named (grants name List.mem_cons_self) (ok_of_toOption stands)
  | .call name args =>
    rw [Expr.names] at grants
    rcases List.forall_mem_cons.mp grants with ⟨here, inside⟩
    rw [Expr.validator?] at stands
    rcases Option.bind_eq_some_iff.mp stands with ⟨f, known, stands⟩
    rcases Option.bind_eq_some_iff.mp stands with ⟨args', are, stands⟩
    have given := inherits_arguments? combines inside are
    exact here.function f known args' w given (ok_of_toOption stands)
  | .eq name value =>
    rw [Expr.names] at grants
    rcases List.forall_mem_cons.mp grants with ⟨here, inside⟩
    rw [Expr.validator?] at stands
    rcases Option.bind_eq_some_iff.mp stands with ⟨f, known, stands⟩
    rcases Option.bind_eq_some_iff.mp stands with ⟨arg, is, stands⟩
    have given := List.forall_mem_singleton.mpr (inherits_argument? combines inside is)
    exact here.function f known [arg] w given (ok_of_toOption stands)

theorem inherits_validators? (combines : Combines P) {rules : List Expr}
    (grants : ∀ name ∈ allNames rules, book.Grants P name) {ws : List Validator}
    (stand : validators? book rules = some ws) : ∀ w ∈ ws, P w := by
  match rules with
  | [] =>
    cases stand
    exact fun _ mem => by cases mem
  | rule :: rules =>
    rw [allNames] at grants
    rcases List.forall_mem_append.mp grants with ⟨here, later⟩
    rcases validators?_cons.mp stand with ⟨w, first, ws', rest, rfl⟩
    have others := inherits_validators? combines later rest
    exact List.forall_mem_cons.mpr ⟨inherits_validator? combines here first, others⟩

theorem inherits_argument? (combines : Combines P) {arg : ArgExpr}
    (grants : ∀ name ∈ arg.names, book.Grants P name) {argument : Argument}
    (is : arg.argument? book = some argument) : argument.Has P := by
  match arg with
  | .integer _ | .float _ | .string _ | .boolean _ =>
    cases is
    exact fun _ is => by cases is
  | .expr (.ident name) =>
    rw [ArgExpr.names, Expr.names] at grants
    rw [ArgExpr.argument?] at is
    exact inherits_argumentNamed (grants name List.mem_cons_self) (ok_of_toOption is)
  | .expr (.and operands) =>
    rw [ArgExpr.names] at grants
    exact inherits_rule (by simp) (fun w => inherits_validator? combines grants) is
  | .expr (.or operands) =>
    rw [ArgExpr.names] at grants
    exact inherits_rule (by simp) (fun w => inherits_validator? combines grants) is
  | .expr (.call name args) =>
    rw [ArgExpr.names] at grants
    exact inherits_rule (by simp) (fun w => inherits_validator? combines grants) is
  | .expr (.eq name value) =>
    rw [ArgExpr.names] at grants
    exact inherits_rule (by simp) (fun w => inherits_validator? combines grants) is

theorem inherits_arguments? (combines : Combines P) {args : List ArgExpr}
    (grants : ∀ name ∈ argNames args, book.Grants P name) {arguments : List Argument}
    (are : arguments? book args = some arguments) : ∀ arg ∈ arguments, arg.Has P := by
  match args with
  | [] =>
    cases are
    exact fun _ mem => by cases mem
  | arg :: args =>
    rw [argNames] at grants
    rcases List.forall_mem_append.mp grants with ⟨here, later⟩
    rcases arguments?_cons.mp are with ⟨argument, first, arguments', rest, rfl⟩
    have others := inherits_arguments? combines later rest
    exact List.forall_mem_cons.mpr ⟨inherits_argument? combines here first, others⟩

end

/-- What a text is compiled to has the property if all names in it grant it. -/
theorem inherits_compile (combines : Combines P) {serial : Nat} {text : String}
    (grants : ∀ rule, Expr.parse text = .ok rule → ∀ name ∈ rule.names, book.Grants P name)
    {handle : Handle} (compiled : book.compile serial text = .ok handle) : P handle.validator := by
  rw [Rulebook.compile] at compiled
  cases parsed : Expr.parse text with
  | error e =>
    rw [parsed] at compiled
    cases compiled
  | ok rule =>
    rw [parsed] at compiled
    dsimp only at compiled
    have agrees := agrees_compileExpr book serial rule
    rw [compiled] at agrees
    generalize stands : rule.validator? book = value at agrees
    generalize rule.firstError book true = err at agrees
    cases agrees with
    | ok same =>
      rw [same]
      exact inherits_validator? combines (grants rule parsed) stands

end rules

/-! ## Functions -/

namespace Function

theorem inherits_constant (name : String) {v : Validator} (has : P v) :
    (constant name v).Inherits P := by
  intro args w _ built
  rcases bind_eq_ok_iff.mp built with ⟨_, _, built⟩
  cases built
  exact has

theorem inherits_ofNumber (name : String) {make : Double → Validator} (has : ∀ x, P (make x)) :
    (ofNumber name make).Inherits P := by
  intro args w _ built
  rcases bind_eq_ok_iff.mp built with ⟨_, _, built⟩
  rcases bind_eq_ok_iff.mp built with ⟨x, _, built⟩
  cases built
  exact has x

theorem inherits_ofTwoNumbers (name : String) {make : Double → Double → Validator}
    (has : ∀ x y, P (make x y)) : (ofTwoNumbers name make).Inherits P := by
  intro args w _ built
  rcases bind_eq_ok_iff.mp built with ⟨_, _, built⟩
  rcases bind_eq_ok_iff.mp built with ⟨x, _, built⟩
  rcases bind_eq_ok_iff.mp built with ⟨y, _, built⟩
  cases built
  exact has x y

theorem inherits_ofInteger (name : String) {make : Int64 → Validator} (has : ∀ n, P (make n)) :
    (ofInteger name make).Inherits P := by
  intro args w _ built
  rcases bind_eq_ok_iff.mp built with ⟨_, _, built⟩
  rcases bind_eq_ok_iff.mp built with ⟨n, _, built⟩
  cases built
  exact has n

theorem inherits_ofThreeIntegers (name : String) {make : Int64 → Int64 → Int64 → Validator}
    (has : ∀ a b c, P (make a b c)) : (ofThreeIntegers name make).Inherits P := by
  intro args w _ built
  rcases bind_eq_ok_iff.mp built with ⟨_, _, built⟩
  rcases bind_eq_ok_iff.mp built with ⟨a, _, built⟩
  rcases bind_eq_ok_iff.mp built with ⟨b, _, built⟩
  rcases bind_eq_ok_iff.mp built with ⟨c, _, built⟩
  cases built
  exact has a b c

theorem inherits_ofText (name : String) {make : String → Except String Validator}
    (has : ∀ text w, make text = .ok w → P w) : (ofText name make).Inherits P := by
  intro args w _ built
  rcases bind_eq_ok_iff.mp built with ⟨_, _, built⟩
  rcases bind_eq_ok_iff.mp built with ⟨text, _, built⟩
  cases made : make text with
  | error e =>
    rw [made] at built
    cases built
  | ok v =>
    rw [made] at built
    cases built
    exact has text w made

theorem inherits_ofTexts (name : String) {make : List String → Validator}
    (has : ∀ texts, P (make texts)) : (ofTexts name make).Inherits P := by
  intro args w _ built
  rcases bind_eq_ok_iff.mp built with ⟨_, _, built⟩
  rcases bind_eq_ok_iff.mp built with ⟨texts, _, built⟩
  cases built
  exact has texts

theorem inherits_ofValidators (name : String) {make : List Validator → Validator}
    (has : ∀ ws, (∀ w ∈ ws, P w) → P (make ws)) : (ofValidators name make).Inherits P := by
  intro args w given built
  rcases bind_eq_ok_iff.mp built with ⟨_, _, built⟩
  rcases bind_eq_ok_iff.mp built with ⟨ws, taken, built⟩
  cases built
  refine has ws fun w mem => ?_
  have member : some w ∈ args.map Argument.validator? := by
    rw [map_read_of_take taken]
    exact List.mem_map_of_mem mem
  rcases List.mem_map.mp member with ⟨arg, among, is⟩
  exact given arg among w is

/-- The standard functions hand a property on that their checks have. -/
theorem inherits_standard (checks : ∀ c : Check, (∀ custom, c ≠ .custom custom) → P (.check c))
    (nested : P .nested) (combines : Combines P) (contains : Contains P) :
    ∀ f ∈ standard, f.Inherits P := by
  have matching_has : ∀ text w, matching text = .ok w → P w := by
    intro text w made
    rw [matching] at made
    split at made
    · cases made
      exact checks _ (by simp)
    · cases made
  have items : ∀ ws, (∀ w ∈ ws, P w) → P (.items (.conj ws)) :=
    fun _ has => contains.items _ (combines.conj has)
  have parts : ∀ part ws, (∀ w ∈ ws, P w) → P (.parts part (.conj ws)) :=
    fun part _ has => contains.parts part _ (combines.conj has)
  intro f mem
  rw [standard] at mem
  rcases List.mem_append.mp mem with mem | mem
  · simp only [List.mem_cons, List.not_mem_nil, or_false] at mem
    rcases mem with
      rfl | rfl | rfl | rfl | rfl | rfl | rfl | rfl | rfl | rfl | rfl | rfl | rfl | rfl
    · exact inherits_constant _ (checks _ (by simp))
    · exact inherits_constant _ (checks _ (by simp))
    · exact inherits_ofNumber _ fun _ => checks _ (by simp)
    · exact inherits_ofNumber _ fun _ => checks _ (by simp)
    · exact inherits_ofTwoNumbers _ fun _ _ => checks _ (by simp)
    · exact inherits_ofInteger _ fun _ => checks _ (by simp)
    · exact inherits_ofTexts _ fun _ => checks _ (by simp)
    · exact inherits_ofThreeIntegers _ fun _ _ _ => checks _ (by simp)
    · exact inherits_ofText _ matching_has
    · exact inherits_constant _ nested
    · exact inherits_ofValidators _ items
    · exact inherits_ofValidators _ (parts .key)
    · exact inherits_ofValidators _ (parts .value)
    · exact inherits_ofValidators _ (parts .entry)
  · rcases List.mem_map.mp mem with ⟨format, -, rfl⟩
    exact inherits_constant _ (checks _ (by simp))

end Function

end RecordRules

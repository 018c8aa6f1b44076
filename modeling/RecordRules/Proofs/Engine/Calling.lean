import RecordRules.Proofs.Engine.Keeping
import RecordRules.Proofs.Rulebook.Rendering

/-!
# Rules that name a function or call it with integers

A rule that is a single name is what the name stands for, and one that is a single call, with
integers for arguments, is the validator that the function makes of them.  So an engine with the
standard functions accepts a value by such a rule exactly if the value passes the check, whatever
the engine has been asked before.
-/

namespace RecordRules

open RecordRules.Derivation

/-- A rule that is a name means what the name stands for. -/
theorem meaning_of_name {s : Setup} {name : String} (isName : IsName name) :
    s.reading.meaning name = s.book.named name := by
  have agrees := agrees_compileExpr s.book 0 (.ident name)
  have first : (Expr.ident name).firstError s.book true = Site.errorOf? (s.book.named name) := by
    rw [Expr.firstError, Expr.sites, List.findSome?_singleton]
    rfl
  rw [Expr.validator?, first] at agrees
  rw [show s.reading.meaning name = (s.book.compile 0 name).map Handle.validator from rfl,
    compile_of_parse s.book 0 (parse_name isName)]
  generalize s.book.compileExpr 0 (.ident name) = result at agrees ⊢
  cases named : s.book.named name with
  | error e =>
    rw [named] at agrees
    cases agrees
    rfl
  | ok w =>
    rw [named] at agrees
    cases agrees with
    | ok same => exact congrArg Except.ok same

/-- The text of a call with integers. -/
def callText (name : String) (first : Int64) (rest : List Int64) : String :=
  name ++ "(" ++ ", ".intercalate ((first :: rest).map int64Text) ++ ")"

example : callText "exp" (-2) [0, 10] = "exp(-2, 0, 10)" := by decide

theorem toList_callText (name : String) (first : Int64) (rest : List Int64) :
    (callText name first rest).toList =
      name.toList ++ '(' :: (integersText first rest ++ [')']) := by
  have others : (rest.map int64Text).flatMap (fun text => ", ".toList ++ text.toList) =
      rest.flatMap fun n => ',' :: ' ' :: integerChars n.toInt := by
    rw [List.flatMap_map]
    exact congrArg (List.flatMap · rest) (funext fun n => by rw [toList_int64Text]; rfl)
  rw [callText, String.toList_append, String.toList_append, String.toList_append, List.map_cons,
    toList_intercalate_cons, others, toList_int64Text, integersText]
  simp

/-- A call is parsed as one. -/
theorem parse_callText {name : String} (isName : IsName name) (first : Int64) (rest : List Int64) :
    Expr.parse (callText name first rest) =
      .ok (.call name (argExprs ((first :: rest).map passedInteger))) := by
  obtain ⟨d, kinds, expr⟩ := disjunction_of_primary (.call name ((first :: rest).map passedInteger))
  have written := written_call isName first rest
  rw [← kinds, ← toList_callText] at written
  have parsed := parse_written written
  rw [String.ofList_toList, expr] at parsed
  exact parsed

/-- A call means the validator that the function makes. -/
theorem meaning_callText {s : Setup} {name : String} (isName : IsName name) {f : Function}
    (known : s.functions.get? name = some f) {first : Int64} {rest : List Int64} {w : Validator}
    (built : f.build ((first :: rest).map .int) = .ok w) :
    s.reading.meaning (callText name first rest) = .ok w :=
  compile_of_validator? 0 (parse_callText isName first rest)
    (validator?_call known (arguments?_integers (first :: rest)) built)

/-- The setup with the standard functions. -/
def Setup.standard (config : Config) : Setup where
  config
  functions := Rulebook.standard.functions
  symbols := {}

/-- An engine with the standard functions after some requests. -/
def Workspace.afterRequests (config : Config) (requests : List Request) : Workspace :=
  ((Request.performAll requests).run { engine := .new config }).2

/-- The engine accepts the value by a rule. -/
def Workspace.Accepts (w : Workspace) (v : Value) (rule : String) : Prop :=
  ((Engine.validate v rule).run w).1 = .ok ()

theorem faithful_afterRequests (config : Config) (requests : List Request) :
    (Setup.standard config).Faithful (Workspace.afterRequests config requests).engine :=
  keeps_performAll requests { engine := .new config } (faithful_engine (.standard config))

/-- A value obeys a rule that means a single check exactly if it passes. -/
theorem accepts_check {s : Setup} {w : Workspace} (faithful : s.Faithful w.engine) {rule : String}
    {c : Check} (means : s.reading.meaning rule = .ok (.check c)) (v : Value) :
    w.Accepts v rule ↔ c.test (some v) v = .ok () := by
  have built := build_eq_meaning faithful rule
  rw [means] at built
  cases result : (w.engine.rules.build rule).1 with
  | error e =>
    rw [result] at built
    cases built
  | ok handle =>
    rw [result] at built
    have validator : handle.validator = .check c := Except.ok.inj built
    have work : (Work.build rule).run w = (.ok handle, ((Work.build rule).run w).2) :=
      Prod.ext result rfl
    generalize ((Work.build rule).run w).2 = after at work
    have tested : ((Engine.run (.check c) (some v) v).run after).1 = c.test (some v) v := rfl
    rw [Workspace.Accepts, Engine.validate, StateT.run_bind, work]
    change ((Engine.run handle.validator (some v) v >>= _).run after).1 = _ ↔ _
    rw [validator, StateT.run_bind, ← tested]
    generalize (Engine.run (.check c) (some v) v).run after = answer
    obtain ⟨outcome, _⟩ := answer
    cases outcome with
    | ok _ => exact iff_of_true rfl rfl
    | error e => constructor <;> intro passes <;> cases passes

/-- So the engine accepts a value by a call of a standard function that makes a check exactly if
the value passes it. -/
theorem accepts_callText {config : Config} {requests : List Request} {name : String}
    (isName : IsName name) {f : Function} (known : Rulebook.standard.functions.get? name = some f)
    {first : Int64} {rest : List Int64} {c : Check}
    (built : f.build ((first :: rest).map .int) = .ok (.check c)) (v : Value) :
    (Workspace.afterRequests config requests).Accepts v (callText name first rest) ↔
      c.test (some v) v = .ok () :=
  accepts_check (faithful_afterRequests config requests)
    (meaning_callText (s := .standard config) isName known built) v

end RecordRules

import RecordRules.Proofs.Engine.Inspection
import RecordRules.Proofs.Rulebook.Building
import RecordRules.Proofs.Rulebook.Compilation
import RecordRules.Proofs.Table

/-!
# Engines that remember rightly

An engine remembers the validators of rules and the arguments that handlers have read.
As long as its functions and symbols stay the same, what it remembers is what it would
find out again: it is `Faithful` to the `Setup` that it was made from.
-/

namespace RecordRules

/-- What an engine is made from. -/
structure Setup where
  config : Config
  functions : Table Function
  symbols : Table Argument

namespace Setup

/-- The rulebook, with nothing compiled. -/
def book (s : Setup) : Rulebook where
  functions := s.functions
  symbols := s.symbols

/-- The engine before any work. -/
def engine (s : Setup) : Engine :=
  { Engine.new s.config with rules := s.book }

/-- How the engine reads annotations. -/
def reading (s : Setup) : Reading where
  config := s.config
  meaning rule := (s.book.compile 0 rule).map Handle.validator

end Setup

/-! ## Meaning -/

/-- Which compilation made a validator makes no difference to it. -/
theorem compile_validator_eq (book : Rulebook) (serial serial' : Nat) (rule : String) :
    (book.compile serial rule).map Handle.validator =
      (book.compile serial' rule).map Handle.validator := by
  rw [Rulebook.compile, Rulebook.compile]
  cases Expr.parse rule with
  | error e => rfl
  | ok e =>
    have agrees := agrees_compileExpr book serial e
    have agrees' := agrees_compileExpr book serial' e
    dsimp only
    generalize book.compileExpr serial e = result at agrees ⊢
    generalize book.compileExpr serial' e = result' at agrees' ⊢
    generalize e.validator? book = value at agrees agrees'
    generalize e.firstError book true = err at agrees agrees'
    cases agrees with
    | error =>
      cases agrees'
      rfl
    | ok same =>
      cases agrees' with
      | ok same' => exact congrArg Except.ok (same.trans same'.symm)

/-- A rulebook with the functions and symbols of a setup gives rules the meaning that they
have there. -/
theorem compile_eq_meaning {s : Setup} {book : Rulebook} (functions : book.functions = s.functions)
    (symbols : book.symbols = s.symbols) (serial : Nat) (rule : String) :
    (book.compile serial rule).map Handle.validator = s.reading.meaning rule := by
  obtain ⟨_, _, _, _⟩ := book
  cases functions
  cases symbols
  exact compile_validator_eq s.book serial 0 rule

/-- What an unknown rule means is said by the functions and symbols alone. -/
theorem map_build_of_unknown {book : Rulebook} {rule : String}
    (unknown : book.compiled.get? rule = none) :
    (book.build rule).1.map Handle.validator =
      (Setup.mk {} book.functions book.symbols).reading.meaning rule := by
  rw [← compile_eq_meaning rfl rfl (book.parses + 1) rule]
  cases compiles : book.compile (book.parses + 1) rule with
  | ok handle => rw [Rulebook.build_of_compile unknown compiles]
  | error e => rw [Rulebook.build_of_compile_error unknown compiles]

/-- What a rule means is said by the functions, the symbols and what it was compiled to. -/
theorem map_build_congr {book book' : Rulebook} {rule : String}
    (functions : book.functions = book'.functions) (symbols : book.symbols = book'.symbols)
    (compiled : book.compiled.get? rule = book'.compiled.get? rule) :
    (book.build rule).1.map Handle.validator = (book'.build rule).1.map Handle.validator := by
  cases known : book.compiled.get? rule with
  | some handle =>
    rw [Rulebook.build_of_remembered known,
      Rulebook.build_of_remembered (compiled.symm.trans known)]
  | none =>
    rw [map_build_of_unknown known, map_build_of_unknown (compiled.symm.trans known), functions,
      symbols]

/-- Building a rule does not change what any rule means. -/
theorem map_build_build (book : Rulebook) (rule text : String) :
    (((book.build rule).2).build text).1.map Handle.validator =
      (book.build text).1.map Handle.validator := by
  rcases book.build_cases rule with
    ⟨handle, -, built⟩ | ⟨handle, unknown, compiles, built⟩ | ⟨e, -, -, built⟩
  · rw [built]
  · by_cases same : text = rule
    · subst same
      rw [built, Rulebook.build_of_remembered (Memo.get?_remember_self _ unknown handle)]
    · rw [built]
      exact map_build_congr rfl rfl (Memo.get?_remember_of_ne same handle)
  · rw [built]
    exact map_build_congr rfl rfl rfl

/-! ## Handlers of validation -/

/-- What a handler reads from the text of an annotation. -/
def Reading.argument (reading : Reading) (text : String) : Handler → Except Fatal Prepared
  | .validate _ =>
    match reading.meaning text with
    | .ok validator => .ok ⟨.rule, validator⟩
    | .error e => .error (.rule e)
  | .plain h => (h.parse text).map fun payload => ⟨h.sort, payload⟩

/-- Validation has handlers for two annotations; that of the walk comes first. -/
theorem validation_handler (s : Setup) (name : String) :
    s.engine.validation.handlers.get? name =
      if name = s.config.walkTag then some (.plain .walkControl)
      else if name = s.config.validateTag then some (.validate true)
      else none := by
  have handlers : s.engine.validation.handlers =
      ((Table.empty.insert s.config.validateTag (.validate true)).insert s.config.walkTag
        (.plain .walkControl)) := rfl
  rw [handlers, Table.get?_insert, Table.get?_insert, Table.get?_empty]
  simp only [eq_comm]

/-! ## Faithful engines -/

/-- An engine has the tables of a setup and remembers only what they give. -/
structure Setup.Faithful (s : Setup) (e : Engine) : Prop where
  config : e.config = s.config
  functions : e.rules.functions = s.functions
  symbols : e.rules.symbols = s.symbols
  compiled : ∀ rule handle, e.rules.compiled.get? rule = some handle →
    s.reading.meaning rule = .ok handle.validator
  handlers : e.validation.handlers = s.engine.validation.handlers
  arguments : ∀ name quoted text h argument,
    e.validation.arguments.get? (name, quoted) = some argument → unquote quoted = .ok text →
    s.engine.validation.handlers.get? name = some h → s.reading.argument text h = .ok argument

variable {s : Setup}

theorem faithful_engine (s : Setup) : s.Faithful s.engine where
  config := rfl
  functions := rfl
  symbols := rfl
  compiled _ _ found := by cases found
  handlers := rfl
  arguments _ _ _ _ _ found := by cases found

/-- The registry of all handlers has no say in validation. -/
theorem Setup.Faithful.withRegistry {e : Engine} (faithful : s.Faithful e) (registry : Registry) :
    s.Faithful { e with registry } where
  config := faithful.config
  functions := faithful.functions
  symbols := faithful.symbols
  compiled := faithful.compiled
  handlers := faithful.handlers
  arguments := faithful.arguments

/-- Building a rule gives its meaning. -/
theorem build_eq_meaning {e : Engine} (faithful : s.Faithful e) (rule : String) :
    (e.rules.build rule).1.map Handle.validator = s.reading.meaning rule := by
  cases found : e.rules.compiled.get? rule with
  | some handle =>
    rw [Rulebook.build_of_remembered found]
    exact (faithful.compiled rule handle found).symm
  | none =>
    rw [map_build_of_unknown found, faithful.functions, faithful.symbols]
    rfl

/-- Building a rule keeps an engine faithful. -/
theorem faithful_build {e : Engine} (faithful : s.Faithful e) (rule : String) :
    s.Faithful { e with rules := (e.rules.build rule).2 } := by
  have meaning := build_eq_meaning faithful rule
  rcases e.rules.build_cases rule with
    ⟨handle, -, built⟩ | ⟨handle, -, -, built⟩ | ⟨_, -, -, built⟩
  · rw [built]
    exact faithful
  · rw [built] at meaning ⊢
    refine { faithful with compiled := fun sought found get => ?_ }
    rcases Memo.get?_remember get with get | ⟨rfl, rfl⟩
    · exact faithful.compiled sought found get
    · exact meaning.symm
  · rw [built]
    exact { faithful with }

/-- Remembering an argument keeps an engine faithful if its handler has read it. -/
theorem faithful_remember {e : Engine} (faithful : s.Faithful e) (registry : RegistryName)
    {name quoted : String} {argument : Prepared}
    (read : registry = .validation → ∃ text h, unquote quoted = .ok text ∧
      s.engine.validation.handlers.get? name = some h ∧ s.reading.argument text h = .ok argument) :
    s.Faithful (e.rememberArgument registry (name, quoted) argument) := by
  cases registry with
  | full => exact faithful.withRegistry _
  | bare => exact faithful
  | validation =>
    obtain ⟨text, h, unquoted, handler, reads⟩ := read rfl
    refine { faithful with
      arguments := fun sought quoted' text' h' argument' get unquoted' is => ?_ }
    rcases Memo.get?_remember get with get | ⟨same, rfl⟩
    · exact faithful.arguments sought quoted' text' h' argument' get unquoted' is
    · cases same
      cases unquoted.symm.trans unquoted'
      cases handler.symm.trans is
      exact reads

end RecordRules

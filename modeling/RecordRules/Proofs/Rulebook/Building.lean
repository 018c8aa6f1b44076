import Mathlib.Data.Finset.Card
import Mathlib.Data.List.Induction
import RecordRules.Proofs.Table
import RecordRules.Rulebook.Basic

/-!
# Rulebooks over time

Rules are built while functions and symbols are still being registered.  What a rule was
built to when that first succeeded is what it stays, whatever is registered later; until
then each attempt compiles it anew.  The counts that a rulebook shows are those of the
attempts.

`Rulebook.performAll` is a run of such operations and `Rulebook.builds` the attempts of
the run with their results.  `Recalls` is the invariant of runs: what a rulebook
remembers are the successful attempts.
-/

namespace RecordRules

namespace Rulebook

/-- What is done with a rulebook. -/
inductive Operation where
  | build (rule : String)
  | addFunction (f : Function)
  | addSymbol (name : String) (value : Argument)

/-- The rulebook after an operation, whatever comes of it. -/
def perform (book : Rulebook) : Operation → Rulebook
  | .build rule => (book.build rule).2
  | .addFunction f => book.addFunction f
  | .addSymbol name value => book.addSymbol name value

/-- The rulebook after a run of operations. -/
def performAll (book : Rulebook) (operations : List Operation) : Rulebook :=
  operations.foldl perform book

/-- An attempt to build a rule, and what came of it. -/
abbrev Attempt := String × Except BuildError Handle

/-- The attempts that an operation makes. -/
def attempts (book : Rulebook) : Operation → List Attempt
  | .build rule => [(rule, (book.build rule).1)]
  | _ => []

/-- The attempts of a run of operations, in order. -/
def builds (book : Rulebook) : List Operation → List Attempt
  | [] => []
  | operation :: operations => book.attempts operation ++ (book.perform operation).builds operations

/-- The texts of rules that were built. -/
def builtTexts (log : List Attempt) : List String :=
  (log.filter fun attempt => attempt.2.isOk).map Prod.fst

/-- How many attempts failed. -/
def failedCount (log : List Attempt) : Nat :=
  log.countP fun attempt => !attempt.2.isOk

/-- Nothing has been built yet. -/
def Unused (book : Rulebook) : Prop :=
  book.compiled = .empty ∧ book.parses = 0

/-! ## One operation -/

theorem build_of_remembered {book : Rulebook} {rule : String} {handle : Handle}
    (remembered : book.compiled.get? rule = some handle) :
    book.build rule = (.ok handle, book) := by
  rw [build, remembered]

theorem build_of_compile {book : Rulebook} {rule : String} {handle : Handle}
    (unknown : book.compiled.get? rule = none)
    (compiles : book.compile (book.parses + 1) rule = .ok handle) :
    book.build rule = (.ok handle, { book with
      parses := book.parses + 1, compiled := book.compiled.remember rule handle }) := by
  rw [build, unknown]
  dsimp only
  rw [compiles]

theorem build_of_compile_error {book : Rulebook} {rule : String} {e : BuildError}
    (unknown : book.compiled.get? rule = none)
    (fails : book.compile (book.parses + 1) rule = .error e) :
    book.build rule = (.error e, { book with parses := book.parses + 1 }) := by
  rw [build, unknown]
  dsimp only
  rw [fails]

/-- A text that has been built keeps the symbol of that time, where another text gets the symbol
that is registered later. -/
theorem build_after_symbol {start : Rulebook} (unused : start.Unused) {name : String}
    {early late : Argument} {text text' : String} (other : text ≠ text') {handle handle' : Handle}
    (compiles : (start.addSymbol name early).compile 1 text = .ok handle)
    (compiles' : ((start.addSymbol name early).addSymbol name late).compile 2 text' = .ok handle') :
    let book := ((start.addSymbol name early).build text).2.addSymbol name late
    (book.build text).1 = .ok handle ∧ (book.build text').1 = .ok handle' := by
  intro book
  obtain ⟨none, zero⟩ := unused
  have unknown : (start.addSymbol name early).compiled.get? text = Option.none := by
    change start.compiled.get? text = _
    rw [none]
    rfl
  have first : (start.addSymbol name early).compile ((start.addSymbol name early).parses + 1) text =
      .ok handle := by
    change (start.addSymbol name early).compile (start.parses + 1) text = _
    rw [zero]
    exact compiles
  have is : book = { (start.addSymbol name early).addSymbol name late with
      parses := 1, compiled := Memo.empty.remember text handle } := by
    change ((start.addSymbol name early).build text).2.addSymbol name late = _
    rw [build_of_compile unknown first, addSymbol, addSymbol, zero, none]
    rfl
  have known : book.compiled.get? text = some handle := by
    rw [is]
    exact Memo.get?_remember_self _ rfl handle
  have unknown' : book.compiled.get? text' = Option.none := by
    rw [is]
    exact Memo.get?_remember_of_ne other.symm handle
  have second : book.compile (book.parses + 1) text' = .ok handle' := by
    rw [is]
    exact compiles'
  rw [build_of_remembered known, build_of_compile unknown' second]
  exact ⟨rfl, rfl⟩

/-- Building either finds the rule, or compiles it now and remembers it, or fails. -/
theorem build_cases (book : Rulebook) (rule : String) :
    (∃ handle, book.compiled.get? rule = some handle ∧ book.build rule = (.ok handle, book)) ∨
    (∃ handle, book.compiled.get? rule = none ∧
      book.compile (book.parses + 1) rule = .ok handle ∧
      book.build rule = (.ok handle, { book with
        parses := book.parses + 1, compiled := book.compiled.remember rule handle })) ∨
    (∃ e, book.compiled.get? rule = none ∧ book.compile (book.parses + 1) rule = .error e ∧
      book.build rule = (.error e, { book with parses := book.parses + 1 })) := by
  cases found : book.compiled.get? rule with
  | some handle => exact .inl ⟨handle, rfl, build_of_remembered found⟩
  | none =>
    cases compiles : book.compile (book.parses + 1) rule with
    | ok handle => exact .inr (.inl ⟨handle, rfl, rfl, build_of_compile found compiles⟩)
    | error e => exact .inr (.inr ⟨e, rfl, rfl, build_of_compile_error found compiles⟩)

theorem functions_build (book : Rulebook) (rule : String) :
    (book.build rule).2.functions = book.functions := by
  rcases book.build_cases rule with ⟨_, _, is⟩ | ⟨_, _, _, is⟩ | ⟨_, _, _, is⟩ <;> rw [is]

/-- A failure costs a parse and nothing else. -/
theorem build_of_error {book : Rulebook} {rule : String} {e : BuildError}
    (fails : (book.build rule).1 = .error e) :
    (book.build rule).2 = { book with parses := book.parses + 1 } := by
  rcases book.build_cases rule with ⟨_, _, is⟩ | ⟨_, _, _, is⟩ | ⟨_, _, _, is⟩
  · rw [is] at fails
    cases fails
  · rw [is] at fails
    cases fails
  · rw [is]

/-! ## Runs -/

theorem performAll_concat (book : Rulebook) (operations : List Operation) (last : Operation) :
    book.performAll (operations ++ [last]) = (book.performAll operations).perform last := by
  rw [performAll, List.foldl_append]
  rfl

theorem builds_concat (book : Rulebook) (operations : List Operation) (last : Operation) :
    book.builds (operations ++ [last]) =
      book.builds operations ++ (book.performAll operations).attempts last := by
  induction operations generalizing book with
  | nil => exact List.append_nil _
  | cons operation operations ih =>
    rw [List.cons_append, builds, builds, ih, List.append_assoc]
    rfl

/-- A rulebook remembers what a log of attempts says, and counts the attempts that made it
compile. -/
structure Recalls (log : List Attempt) (book : Rulebook) : Prop where
  remembered : ∀ rule handle, book.compiled.get? rule = some handle ↔ (rule, .ok handle) ∈ log
  counted : book.parses = book.compiled.size + failedCount log

theorem recalls_unused {book : Rulebook} (unused : book.Unused) : Recalls [] book where
  remembered rule handle := by
    rw [unused.1]
    exact ⟨(fun found => by cases found), fun mem => absurd mem List.not_mem_nil⟩
  counted := by
    rw [unused.1, unused.2]
    rfl

/-- Finding a rule again adds nothing to what is recalled. -/
theorem recalls_again {log : List Attempt} {book : Rulebook} (recalls : Recalls log book)
    {rule : String} {handle : Handle} (known : (rule, .ok handle) ∈ log) :
    Recalls (log ++ [(rule, .ok handle)]) book where
  remembered sought found := by
    rw [recalls.remembered, List.mem_append, List.mem_singleton]
    constructor
    · exact .inl
    · rintro (mem | is)
      · exact mem
      · rwa [is]
  counted := by
    rw [recalls.counted, failedCount, failedCount, List.countP_append]
    rfl

theorem recalls_compiled {log : List Attempt} {book : Rulebook} (recalls : Recalls log book)
    {rule : String} (unknown : book.compiled.get? rule = none) (handle : Handle) :
    Recalls (log ++ [(rule, .ok handle)]) { book with
      parses := book.parses + 1, compiled := book.compiled.remember rule handle } where
  remembered sought found := by
    rw [List.mem_append, List.mem_singleton, ← recalls.remembered]
    constructor
    · intro get
      rcases Memo.get?_remember get with get | ⟨rfl, rfl⟩
      · exact .inl get
      · exact .inr rfl
    · rintro (get | is)
      · exact Memo.get?_remember_of_some get rule handle
      · cases is
        exact Memo.get?_remember_self _ unknown handle
  counted := by
    have size : (book.compiled.remember rule handle).size = book.compiled.size + 1 :=
      Memo.size_remember _ unknown handle
    have failures : failedCount (log ++ [(rule, .ok handle)]) = failedCount log := by
      rw [failedCount, failedCount, List.countP_append]
      rfl
    have counted := recalls.counted
    dsimp only
    rw [size, failures]
    omega

theorem recalls_failed {log : List Attempt} {book : Rulebook} (recalls : Recalls log book)
    (rule : String) (e : BuildError) :
    Recalls (log ++ [(rule, .error e)]) { book with parses := book.parses + 1 } where
  remembered sought found := by
    rw [recalls.remembered, List.mem_append, List.mem_singleton]
    constructor
    · exact .inl
    · rintro (mem | is)
      · exact mem
      · cases is
  counted := by
    have failures : failedCount (log ++ [(rule, .error e)]) = failedCount log + 1 := by
      rw [failedCount, failedCount, List.countP_append]
      rfl
    have counted := recalls.counted
    dsimp only
    rw [failures]
    omega

/-- Each operation is recalled together with what was before. -/
theorem recalls_perform {log : List Attempt} {book : Rulebook} (recalls : Recalls log book)
    (operation : Operation) :
    Recalls (log ++ book.attempts operation) (book.perform operation) := by
  cases operation with
  | addFunction f =>
    have none : book.attempts (.addFunction f) = [] := rfl
    rw [none, List.append_nil]
    exact ⟨recalls.remembered, recalls.counted⟩
  | addSymbol name value =>
    have none : book.attempts (.addSymbol name value) = [] := rfl
    rw [none, List.append_nil]
    exact ⟨recalls.remembered, recalls.counted⟩
  | build rule =>
    rw [attempts, perform]
    rcases book.build_cases rule with
      ⟨handle, found, is⟩ | ⟨handle, unknown, -, is⟩ | ⟨e, -, -, is⟩
    · rw [is]
      exact recalls_again recalls ((recalls.remembered rule handle).mp found)
    · rw [is]
      exact recalls_compiled recalls unknown handle
    · rw [is]
      exact recalls_failed recalls rule e

/-- A run is recalled from the start on. -/
theorem recalls_performAll {start : Rulebook} (unused : start.Unused)
    (operations : List Operation) :
    Recalls (start.builds operations) (start.performAll operations) := by
  induction operations using List.reverseRecOn with
  | nil => exact recalls_unused unused
  | append_singleton operations last ih =>
    rw [builds_concat, performAll_concat]
    exact recalls_perform ih last

/-- As many rules are remembered as texts were built. -/
theorem size_eq_card {log : List Attempt} {book : Rulebook} (recalls : Recalls log book) :
    book.compiled.size = (builtTexts log).toFinset.card := by
  have keys : (book.compiled.entries.map Prod.fst).toFinset = (builtTexts log).toFinset := by
    ext rule
    rw [List.mem_toFinset, List.mem_toFinset, Memo.mem_keys_iff, builtTexts, List.mem_map]
    constructor
    · rintro ⟨handle, found⟩
      have mem := (recalls.remembered rule handle).mp found
      exact ⟨_, List.mem_filter.mpr ⟨mem, rfl⟩, rfl⟩
    · rintro ⟨⟨_, result⟩, mem, rfl⟩
      obtain ⟨mem, succeeded⟩ := List.mem_filter.mp mem
      cases result with
      | error e => cases succeeded
      | ok handle => exact ⟨handle, (recalls.remembered _ handle).mpr mem⟩
  rw [← keys, List.toFinset_card_of_nodup book.compiled.keys_nodup, List.length_map]
  rfl

/-- A rule was built in a run, and the handle is what it was compiled to, with the functions and
symbols of that time, when this first succeeded. -/
def FirstBuild (start : Rulebook) (operations : List Operation) (rule : String) (handle : Handle) :
    Prop :=
  ∃ before after, operations = before ++ .build rule :: after ∧
    (∀ other, (rule, .ok other) ∉ start.builds before) ∧
    (start.performAll before).compile ((start.performAll before).parses + 1) rule = .ok handle

theorem FirstBuild.concat {start : Rulebook} {operations : List Operation} {rule : String}
    {handle : Handle} (first : FirstBuild start operations rule handle) (last : Operation) :
    FirstBuild start (operations ++ [last]) rule handle := by
  obtain ⟨before, after, rfl, none, compiles⟩ := first
  refine ⟨before, after ++ [last], ?_, none, compiles⟩
  rw [List.append_assoc, List.cons_append]

theorem firstBuild_of_mem {start : Rulebook} (unused : start.Unused) {operations : List Operation}
    {rule : String} {handle : Handle} (built : (rule, .ok handle) ∈ start.builds operations) :
    FirstBuild start operations rule handle := by
  induction operations using List.reverseRecOn with
  | nil => exact absurd built List.not_mem_nil
  | append_singleton operations last ih =>
    rw [builds_concat, List.mem_append] at built
    rcases built with earlier | now
    · exact (ih earlier).concat last
    · cases last with
      | addFunction f => exact absurd now List.not_mem_nil
      | addSymbol name value => exact absurd now List.not_mem_nil
      | build text =>
        have recalls := recalls_performAll unused operations
        obtain ⟨rfl, result⟩ := Prod.mk.inj (List.mem_singleton.mp now)
        rcases (start.performAll operations).build_cases rule with
          ⟨found, remembered, is⟩ | ⟨made, unknown, compiles, is⟩ | ⟨e, _, _, is⟩
        · rw [is] at result
          cases result
          exact (ih ((recalls.remembered _ _).mp remembered)).concat _
        · rw [is] at result
          cases result
          refine ⟨operations, [], rfl, fun other mem => ?_, compiles⟩
          cases unknown.symm.trans ((recalls.remembered _ _).mpr mem)
        · rw [is] at result
          cases result

/-- Whatever is built and registered, in any order: a rule that has been built is built to the
same handle ever after, which it was compiled to when that first succeeded; a rule that has
not been is compiled now; a failure changes nothing but the number of parses.  Rules are
remembered by their texts, once each, and everything else that was parsed has failed. -/
theorem build_performAll {start : Rulebook} (unused : start.Unused) (operations : List Operation) :
    let book := start.performAll operations
    let log := start.builds operations
    (∀ rule handle, (rule, .ok handle) ∈ log →
      book.build rule = (.ok handle, book) ∧ FirstBuild start operations rule handle) ∧
    (∀ rule, (∀ handle, (rule, .ok handle) ∉ log) →
      (book.build rule).1 = book.compile (book.parses + 1) rule) ∧
    (∀ rule e, (book.build rule).1 = .error e →
      (book.build rule).2 = { book with parses := book.parses + 1 }) ∧
    book.compiled.size = (builtTexts log).toFinset.card ∧
    book.parses = book.compiled.size + failedCount log := by
  intro book log
  have recalls : Recalls log book := recalls_performAll unused operations
  refine ⟨fun rule handle built => ⟨?_, firstBuild_of_mem unused built⟩, fun rule none => ?_,
    fun rule e fails => build_of_error fails, size_eq_card recalls, recalls.counted⟩
  · exact build_of_remembered ((recalls.remembered rule handle).mpr built)
  · rcases book.build_cases rule with
      ⟨handle, found, _⟩ | ⟨handle, _, compiles, is⟩ | ⟨e, _, fails, is⟩
    · exact absurd ((recalls.remembered rule handle).mp found) (none handle)
    · rw [is, compiles]
    · rw [is, fails]

/-- A name that stands for nothing at first, then for a symbol, and last for a function. -/
theorem build_performAll_of_name :
    let zero : Handle := ⟨0, .check .zero⟩
    let operations : List Operation := [.build "limit", .addSymbol "limit" (.rule zero),
      .build "limit", .addFunction (.constant "limit" (.check .required))]
    let book := standard.performAll operations
    standard.Unused ∧
      standard.builds operations = [("limit", .error (.unknown "limit")), ("limit", .ok zero)] ∧
      book.build "limit" = (.ok zero, book) ∧ book.compiled.size = 1 ∧ book.parses = 2 := by
  intro zero operations book
  have unused : standard.Unused := ⟨rfl, rfl⟩
  have scanned : Token.scan "limit" = .ok [⟨.ident "limit", 0⟩, ⟨.ending, 5⟩] := by
    apply Token.scanFrom_next (by rfl) (by simp)
    exact Token.scanFrom_ending (by rfl) rfl
  have parsed : Expr.parse "limit" = .ok (.ident "limit") := by
    rw [Expr.parse, scanned]
    rfl
  have fails : standard.compile 1 "limit" = .error (.unknown "limit") := by
    rw [compile, parsed]
    rfl
  have first : standard.build "limit" = (.error _, { standard with parses := 1 }) :=
    build_of_compile_error rfl fails
  let later := ({ standard with parses := 1 } : Rulebook).addSymbol "limit" (.rule zero)
  have compiles : later.compile (later.parses + 1) "limit" = .ok zero := by
    rw [compile, parsed]
    rfl
  have second : later.build "limit" = (.ok zero, _) := build_of_compile rfl compiles
  have log : standard.builds operations =
      [("limit", .error (.unknown "limit")), ("limit", .ok zero)] := by
    change [("limit", (standard.build "limit").1),
      ("limit", (((standard.build "limit").2.addSymbol "limit" (.rule zero)).build "limit").1)] = _
    rw [first]
    change [_, ("limit", (later.build "limit").1)] = _
    rw [second]
  obtain ⟨built, -, -, size, parses⟩ := build_performAll unused operations
  rw [log] at built size parses
  rw [size] at parses
  have again := built "limit" zero (by simp)
  exact ⟨unused, log, again.1, size, parses⟩

end Rulebook

end RecordRules

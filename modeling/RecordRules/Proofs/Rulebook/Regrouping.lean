import RecordRules.Proofs.Rulebook.Recasting
import RecordRules.Proofs.Rulebook.Respecting

/-!
# Grouping operands of one operator

Parentheses around some of the operands of a chain give a chain among the operands of a chain of
the same operator.  This makes no difference to what is checked, nor to the outcome; in a chain of
`&&` it makes none to the rule text either (`regrouped_builds_alike`).

All the same there is a difference between the texts.  A text that has been built before keeps the
functions and symbols of that time, and a function that shows the rule text of a validator shows
how disjunctions are grouped (`regrouped_builds_otherwise`).
-/

namespace RecordRules

open Validator

/-! ## Trees -/

section trees

variable (verbatim : Bool)

mutual

/-- The rules differ only in which operands of chains are grouped, at any depth: this is the least
congruence by which parentheses can be put around some operands of a chain.  Those of `||` are let
alone if the rule text is to be kept. -/
inductive Expr.Regroups : Expr → Expr → Prop
  | conjuncts (before after : List Expr) {group : List Expr} : group ≠ [] →
    Expr.Regroups (.and (before ++ (group ++ after))) (.and (before ++ .and group :: after))
  | disjuncts (before after : List Expr) {group : List Expr} : verbatim = false → group ≠ [] →
    Expr.Regroups (.or (before ++ (group ++ after))) (.or (before ++ .or group :: after))
  | and {operands operands' : List Expr} : RegroupsAll operands operands' →
    Expr.Regroups (.and operands) (.and operands')
  | or {operands operands' : List Expr} : RegroupsAll operands operands' →
    Expr.Regroups (.or operands) (.or operands')
  | call (name : String) {args args' : List ArgExpr} : RegroupsArgs args args' →
    Expr.Regroups (.call name args) (.call name args')
  | eq (name : String) {value value' : ArgExpr} : ArgExpr.Regroups value value' →
    Expr.Regroups (.eq name value) (.eq name value')
  | refl (rule : Expr) : Expr.Regroups rule rule
  | symm {rule rule' : Expr} : Expr.Regroups rule rule' → Expr.Regroups rule' rule
  | trans {rule rule' rule'' : Expr} : Expr.Regroups rule rule' → Expr.Regroups rule' rule'' →
    Expr.Regroups rule rule''

/-- So do these rules, one by one. -/
inductive RegroupsAll : List Expr → List Expr → Prop
  | nil : RegroupsAll [] []
  | cons {rule rule' : Expr} {rules rules' : List Expr} : Expr.Regroups rule rule' →
    RegroupsAll rules rules' → RegroupsAll (rule :: rules) (rule' :: rules')

/-- So do the arguments. -/
inductive ArgExpr.Regroups : ArgExpr → ArgExpr → Prop
  | rule {rule rule' : Expr} : Expr.Regroups rule rule' →
    ArgExpr.Regroups (.expr rule) (.expr rule')
  | kept (arg : ArgExpr) : ArgExpr.Regroups arg arg

/-- So do these arguments, one by one. -/
inductive RegroupsArgs : List ArgExpr → List ArgExpr → Prop
  | nil : RegroupsArgs [] []
  | cons {arg arg' : ArgExpr} {args args' : List ArgExpr} : ArgExpr.Regroups arg arg' →
    RegroupsArgs args args' → RegroupsArgs (arg :: args) (arg' :: args')

end

end trees

/-- What is put in parentheses is a chain, so that a name stays a name. -/
theorem ident_iff_of_regroups {verbatim : Bool} {rule rule' : Expr}
    (regroups : rule.Regroups verbatim rule') (name : String) :
    rule = .ident name ↔ rule' = .ident name := by
  match regroups with
  | .refl _ => rfl
  | .symm back => exact (ident_iff_of_regroups back name).symm
  | .trans first second =>
    exact (ident_iff_of_regroups first name).trans (ident_iff_of_regroups second name)
  | .conjuncts .. | .disjuncts .. | .and _ | .or _ | .call .. | .eq .. => simp

/-! ## Validators -/

section validators

/-- Operands in parentheses may as well be operands of the conjunction itself. -/
theorem alike_conj_group (before after : List Validator) {group : List Validator}
    (some : group ≠ []) :
    ActAlike (conj (before ++ (group ++ after))) (conj (before ++ conj group :: after)) := by
  induction before with
  | nil =>
    rw [List.nil_append, List.nil_append]
    cases after with
    | nil =>
      rw [List.append_nil]
      exact ActAlike.refl _
    | cons w after =>
      exact alike_conj_append (ActAlike.refl _) (ActAlike.refl _) some (List.cons_ne_nil _ _)
        (List.cons_ne_nil _ _)
  | cons w before ih =>
    have more : before ++ (group ++ after) ≠ [] := by simp [some]
    have more' : before ++ conj group :: after ≠ [] := by simp
    change ActAlike (conj ([w] ++ (before ++ (group ++ after)))) _
    exact alike_conj_append (ActAlike.refl w) ih (List.cons_ne_nil _ _) more more'

variable {m : Type → Type} [Monad m] [LawfulMonad m] (r : Validator.Runner m) (root : Option Value)
  (v : Value)

/-- After some validators, one of which could pass, the others are evaluated if none did. -/
theorem runAny_append {us : List Validator} (some : us ≠ []) (ws : List Validator)
    (soFar soFar' : Outcome) :
    runAny r root (us ++ ws) soFar v = (do
      match ← runAny r root us soFar' v with
      | .ok () => return .ok ()
      | .error e => runAny r root ws (.error e) v) := by
  induction us generalizing soFar soFar' with
  | nil => exact absurd rfl some
  | cons u us ih =>
    rw [List.cons_append, runAny, runAny, bind_assoc]
    congr 1
    funext outcome
    cases outcome with
    | ok _ => simp
    | error e =>
      cases us with
      | nil => simp [runAny]
      | cons u' us => exact ih (List.cons_ne_nil _ _) _ _

theorem runAny_group (before after : List Validator) {group : List Validator} (some : group ≠ [])
    (soFar : Outcome) :
    runAny r root (before ++ (group ++ after)) soFar v =
      runAny r root (before ++ any group :: after) soFar v := by
  induction before generalizing soFar with
  | nil =>
    rw [List.nil_append, List.nil_append, runAny, run]
    exact runAny_append r root v some after soFar (.ok ())
  | cons w before ih =>
    rw [List.cons_append, List.cons_append, runAny, runAny]
    congr 1
    funext outcome
    cases outcome with
    | ok _ => rfl
    | error e => exact ih _

/-- Apart from the rule text, the same holds for a disjunction. -/
theorem actsLike_any_group (before after : List Validator) {group : List Validator}
    (some : group ≠ []) :
    ActsLike false (any (before ++ (group ++ after))) (any (before ++ any group :: after)) where
  rule kept := by cases kept
  descends := by
    rw [descends, descends, someDescends_append, someDescends_append, someDescends_append,
      someDescends, descends]
  run m _ _ r root v := by rw [run, run, runAny_group r root v before after some]

end validators

/-! ## Compilation -/

/-- The handles are of validators that act alike. -/
def HandlesLike (verbatim : Bool) (handle handle' : Handle) : Prop :=
  ActsLike verbatim handle.validator handle'.validator

/-- The handles of operands, without a group and with it. -/
def Grouped (make : List Handle → Handle) (handles handles' : List Handle) : Prop :=
  ∃ before group after, group ≠ [] ∧ handles = before ++ (group ++ after) ∧
    handles' = before ++ make group :: after

/-- Compilation of operands meets the same errors without a group and with it. -/
theorem mapM_grouped {compile : Expr → Except BuildError Handle} {make : List Handle → Handle}
    {group : List Expr} {grouped : Expr}
    (compiles : compile grouped = (group.mapM compile).map make) (some : group ≠ [])
    (before after : List Expr) :
    Together (Grouped make) ((before ++ (group ++ after)).mapM compile)
      ((before ++ grouped :: after).mapM compile) := by
  rw [List.mapM_append, List.mapM_append, List.mapM_append, List.mapM_cons, compiles]
  refine (Together.refl (fun _ => rfl) (before.mapM compile)).bind fun bs _ is => ?_
  cases is
  cases groups : group.mapM compile with
  | error e => exact .error
  | ok gs =>
    have length := (mapM_eq_ok_iff.mp groups).length_eq
    cases after.mapM compile with
    | error e => exact .error
    | ok as =>
      refine .ok ⟨bs, gs, as, ?_, rfl, rfl⟩
      rintro rfl
      exact some (List.length_eq_zero_iff.mp length)

theorem handlesLike_conj {verbatim : Bool} {serial : Nat} {handles handles' : List Handle}
    (grouped : Grouped (Rulebook.conj serial) handles handles') :
    HandlesLike verbatim (Rulebook.conj serial handles) (Rulebook.conj serial handles') := by
  obtain ⟨before, group, after, some, rfl, rfl⟩ := grouped
  have some' : group.map Handle.validator ≠ [] := by simpa using some
  have alike := alike_conj_group (before.map Handle.validator) (after.map Handle.validator) some'
  rw [HandlesLike, conj_validator, conj_validator, List.map_append, List.map_append,
    List.map_append, List.map_cons, conj_validator]
  exact alike.actsLike verbatim

theorem handlesLike_any {serial : Nat} {handles handles' : List Handle}
    (grouped : Grouped (fun group => ⟨serial, any (group.map Handle.validator)⟩) handles handles') :
    HandlesLike false ⟨serial, any (handles.map Handle.validator)⟩
      ⟨serial, any (handles'.map Handle.validator)⟩ := by
  obtain ⟨before, group, after, some, rfl, rfl⟩ := grouped
  have some' : group.map Handle.validator ≠ [] := by simpa using some
  have like := actsLike_any_group (before.map Handle.validator) (after.map Handle.validator) some'
  rw [HandlesLike, List.map_append, List.map_append, List.map_append, List.map_cons]
  exact like

/-- The arguments, as a builder receives them, are the same, or validators that act alike. -/
inductive ReceivedLike (verbatim : Bool) : Arg (List Handle) → Arg (List Handle) → Prop
  | same (arg : Arg (List Handle)) : ReceivedLike verbatim arg arg
  | context {handle handle' : Handle} : HandlesLike verbatim handle handle' →
    ReceivedLike verbatim (.context [handle]) (.context [handle'])

/-- The functions of the rulebook respect likeness. -/
def Rulebook.Respects (verbatim : Bool) (book : Rulebook) : Prop :=
  ∀ name f, book.functions.get? name = some f → f.Respects verbatim

section compilation

variable {verbatim : Bool} {book : Rulebook} {serial : Nat}

theorem handlesLike_refl (handle : Handle) : HandlesLike verbatim handle handle :=
  ActsLike.refl _

theorem lower_like {arg arg' : Arg (List Handle)} (like : ReceivedLike verbatim arg arg') :
    Together (ArgumentsLike verbatim) (book.lower serial arg) (book.lower serial arg') := by
  cases like with
  | same arg => exact .refl .same _
  | context like => exact .ok (.rule like)

theorem apply_like (respects : book.Respects verbatim) (name : String)
    {args args' : List (Arg (List Handle))}
    (like : List.Forall₂ (ReceivedLike verbatim) args args') :
    Together (HandlesLike verbatim) (book.apply serial name args)
      (book.apply serial name args') := by
  rw [Rulebook.apply, Rulebook.apply]
  cases known : book.functions.get? name with
  | none => exact .error
  | some f =>
    have lowered : Together (List.Forall₂ (ArgumentsLike verbatim))
        (args.mapM (book.lower serial)) (args'.mapM (book.lower serial)) :=
      .mapM (like.imp fun _ _ => lower_like)
    refine lowered.bind fun arguments arguments' are => ?_
    exact (respects name f known arguments arguments' are).bind fun u w alike => .ok alike

theorem compileExpr_call_like (respects : book.Respects verbatim) (name : String)
    {args args' : List ArgExpr}
    (like : Together (List.Forall₂ (ReceivedLike verbatim))
      (ArgExpr.lowerAll (book.builder serial) args)
      (ArgExpr.lowerAll (book.builder serial) args')) :
    Together (HandlesLike verbatim) (book.compileExpr serial (.call name args))
      (book.compileExpr serial (.call name args')) := by
  rw [Rulebook.compileExpr_call, Rulebook.compileExpr_call]
  exact like.bind fun _ _ are => apply_like respects name are

mutual

/-- Rules that differ only in grouping are compiled alike. -/
theorem compileExpr_regrouped (respects : book.Respects verbatim) {rule rule' : Expr}
    (regroups : rule.Regroups verbatim rule') :
    Together (HandlesLike verbatim) (book.compileExpr serial rule)
      (book.compileExpr serial rule') := by
  match regroups with
  | .refl _ => exact .refl handlesLike_refl _
  | .symm back => exact (compileExpr_regrouped respects back).symm fun _ _ like => like.symm
  | .trans first second =>
    exact (compileExpr_regrouped respects first).trans (compileExpr_regrouped respects second)
      fun _ _ _ like like' => like.trans like'
  | .conjuncts before after nonempty =>
    have grouped := mapM_grouped (Rulebook.compileExpr_and book serial _) nonempty before after
    rw [Rulebook.compileExpr_and, Rulebook.compileExpr_and]
    exact grouped.map fun _ _ => handlesLike_conj
  | .disjuncts before after loose nonempty =>
    have grouped := mapM_grouped (Rulebook.compileExpr_or book serial _) nonempty before after
    rw [Rulebook.compileExpr_or, Rulebook.compileExpr_or]
    exact grouped.map fun _ _ is => loose ▸ handlesLike_any is
  | .and operands =>
    rw [Rulebook.compileExpr_and, Rulebook.compileExpr_and]
    refine (mapM_compileExpr_regrouped respects operands).map fun hs hs' like => ?_
    rw [HandlesLike, conj_validator, conj_validator]
    exact actsLike_conj (List.forall₂_map_left_iff.mpr (List.forall₂_map_right_iff.mpr like))
  | .or operands =>
    rw [Rulebook.compileExpr_or, Rulebook.compileExpr_or]
    refine (mapM_compileExpr_regrouped respects operands).map fun hs hs' like => ?_
    exact actsLike_any (List.forall₂_map_left_iff.mpr (List.forall₂_map_right_iff.mpr like))
  | .call name args => exact compileExpr_call_like respects name (lowerAll_regrouped respects args)
  | .eq name value =>
    rw [Rulebook.compileExpr_eq, Rulebook.compileExpr_eq]
    exact compileExpr_call_like respects name
      (Rulebook.lowerAll_cons_together (lower_regrouped respects value)
        Rulebook.lowerAll_nil_together)

theorem mapM_compileExpr_regrouped (respects : book.Respects verbatim) {rules rules' : List Expr}
    (regroups : RegroupsAll verbatim rules rules') :
    Together (List.Forall₂ (HandlesLike verbatim)) (rules.mapM (book.compileExpr serial))
      (rules'.mapM (book.compileExpr serial)) := by
  match regroups with
  | .nil => exact .ok .nil
  | .cons first rest =>
    rw [List.mapM_cons, List.mapM_cons]
    refine (compileExpr_regrouped respects first).bind fun h h' like => ?_
    exact (mapM_compileExpr_regrouped respects rest).bind fun hs hs' others =>
      .ok (.cons like others)

theorem lower_regrouped (respects : book.Respects verbatim) {arg arg' : ArgExpr}
    (regroups : ArgExpr.Regroups verbatim arg arg') :
    Together (ReceivedLike verbatim) (arg.lower (book.builder serial))
      (arg'.lower (book.builder serial)) := by
  match regroups with
  | .rule inner =>
    exact Rulebook.lower_rule_together (compileExpr_regrouped respects inner)
      (ident_iff_of_regroups inner) .same fun _ _ => .context
  | .kept arg => exact .refl .same _

theorem lowerAll_regrouped (respects : book.Respects verbatim) {args args' : List ArgExpr}
    (regroups : RegroupsArgs verbatim args args') :
    Together (List.Forall₂ (ReceivedLike verbatim)) (ArgExpr.lowerAll (book.builder serial) args)
      (ArgExpr.lowerAll (book.builder serial) args') := by
  match regroups with
  | .nil => exact Rulebook.lowerAll_nil_together
  | .cons first rest =>
    exact Rulebook.lowerAll_cons_together (lower_regrouped respects first)
      (lowerAll_regrouped respects rest)

end

end compilation

/-! ## Building -/

/-- Both texts are built to validators that act alike, or both fail with one error. -/
def Rulebook.BuildsLike (verbatim : Bool) (book : Rulebook) (text text' : String) : Prop :=
  Together (HandlesLike verbatim) (book.build text).1 (book.build text').1

/-- Take two rules that differ only in which operands of chains are grouped, be it those of `&&`
or those of both operators, and functions that respect likeness.  Both rules are compiled to
validators that descend both or neither and give the same outcomes by the same checks, or fail with
one error; with the groups of `||` let alone the validators have one rule text.  Where the same
functions and symbols stand behind a text of each of the two rules, a rulebook builds both texts
so. -/
theorem regrouped_builds_alike {verbatim : Bool} {made : Rulebook}
    (respects : made.Respects verbatim) {rule rule' : Expr}
    (regroups : rule.Regroups verbatim rule') :
    (∀ serial, Together (HandlesLike verbatim) (made.compileExpr serial rule)
      (made.compileExpr serial rule')) ∧
    ∀ text text' : String, Expr.parse text = .ok rule → Expr.parse text' = .ok rule' →
      ∀ book : Rulebook, made.Behind book text → made.Behind book text' →
        book.BuildsLike verbatim text text' := by
  have compiled (serial : Nat) : Together (HandlesLike verbatim) (made.compileExpr serial rule)
      (made.compileExpr serial rule') := compileExpr_regrouped respects regroups
  refine ⟨compiled, fun text text' parsed parsed' book behind behind' => ?_⟩
  have validators : Together (ActsLike verbatim)
      ((made.compileExpr 0 rule).map Handle.validator)
      ((made.compileExpr 0 rule').map Handle.validator) := (compiled 0).map fun _ _ like => like
  rw [← compile_of_parse made 0 parsed, ← compile_of_parse made 0 parsed', ← behind.map_build,
    ← behind'.map_build] at validators
  exact validators.of_map

theorem standard_respects (verbatim : Bool) : Rulebook.standard.Respects verbatim := by
  intro name f known
  exact Function.respects_standard f (mem_standard known).1

theorem parse_conjunction : Expr.parse "len(limit)&&zero&&zero" =
    .ok (.and [.call "len" [.expr (.ident "limit")], .ident "zero", .ident "zero"]) := by
  have scanned : Token.scan "len(limit)&&zero&&zero" = .ok [⟨.ident "len", 0⟩, ⟨.open, 3⟩,
      ⟨.ident "limit", 4⟩, ⟨.close, 9⟩, ⟨.and, 10⟩, ⟨.ident "zero", 12⟩, ⟨.and, 16⟩,
      ⟨.ident "zero", 18⟩, ⟨.ending, 22⟩] := by
    iterate 8 refine Token.scanFrom_next (by rfl) (by simp) ?_
    exact Token.scanFrom_ending (by rfl) rfl
  rw [Expr.parse, scanned]
  rfl

theorem parse_grouped_conjunction : Expr.parse "len(limit)&&(zero&&zero)" =
    .ok (.and [.call "len" [.expr (.ident "limit")], .and [.ident "zero", .ident "zero"]]) := by
  have scanned : Token.scan "len(limit)&&(zero&&zero)" = .ok [⟨.ident "len", 0⟩, ⟨.open, 3⟩,
      ⟨.ident "limit", 4⟩, ⟨.close, 9⟩, ⟨.and, 10⟩, ⟨.open, 12⟩, ⟨.ident "zero", 13⟩, ⟨.and, 17⟩,
      ⟨.ident "zero", 19⟩, ⟨.close, 23⟩, ⟨.ending, 24⟩] := by
    iterate 10 refine Token.scanFrom_next (by rfl) (by simp) ?_
    exact Token.scanFrom_ending (by rfl) rfl
  rw [Expr.parse, scanned]
  rfl

theorem regroups_conjunction : Expr.Regroups true
    (.and [.call "len" [.expr (.ident "limit")], .ident "zero", .ident "zero"])
    (.and [.call "len" [.expr (.ident "limit")], .and [.ident "zero", .ident "zero"]]) :=
  .conjuncts [.call "len" [.expr (.ident "limit")]] []
    (List.cons_ne_nil (.ident "zero") [.ident "zero"])

/-- With a symbol of 5 that has always been there, `len(limit)&&(zero&&zero)` is built as
`len(limit)&&zero&&zero` is. -/
theorem regrouped_builds_alike_of_conjunction :
    let book := Rulebook.standard.addSymbol "limit" (.int 5)
    book.Respects true ∧
      Together (HandlesLike true)
        (book.compileExpr 1
          (.and [.call "len" [.expr (.ident "limit")], .ident "zero", .ident "zero"]))
        (book.compileExpr 1
          (.and [.call "len" [.expr (.ident "limit")], .and [.ident "zero", .ident "zero"]])) ∧
      book.BuildsLike true "len(limit)&&zero&&zero" "len(limit)&&(zero&&zero)" := by
  intro book
  have respects : book.Respects true := standard_respects true
  obtain ⟨compiled, built⟩ := regrouped_builds_alike respects regroups_conjunction
  exact ⟨respects, compiled 1,
    built _ _ parse_conjunction parse_grouped_conjunction book ⟨rfl, rfl⟩ ⟨rfl, rfl⟩⟩

/-! ### Groupings that are told apart -/

theorem parse_negation : Expr.parse "not(zero||required||zero)" =
    .ok (.call "not" [.expr (.or [.ident "zero", .ident "required", .ident "zero"])]) := by
  have scanned : Token.scan "not(zero||required||zero)" = .ok [⟨.ident "not", 0⟩, ⟨.open, 3⟩,
      ⟨.ident "zero", 4⟩, ⟨.or, 8⟩, ⟨.ident "required", 10⟩, ⟨.or, 18⟩, ⟨.ident "zero", 20⟩,
      ⟨.close, 24⟩, ⟨.ending, 25⟩] := by
    iterate 8 refine Token.scanFrom_next (by rfl) (by simp) ?_
    exact Token.scanFrom_ending (by rfl) rfl
  rw [Expr.parse, scanned]
  rfl

theorem parse_grouped_negation : Expr.parse "not((zero||required)||zero)" =
    .ok (.call "not" [.expr (.or [.or [.ident "zero", .ident "required"], .ident "zero"])]) := by
  have scanned : Token.scan "not((zero||required)||zero)" = .ok [⟨.ident "not", 0⟩, ⟨.open, 3⟩,
      ⟨.open, 4⟩, ⟨.ident "zero", 5⟩, ⟨.or, 9⟩, ⟨.ident "required", 11⟩, ⟨.close, 19⟩, ⟨.or, 20⟩,
      ⟨.ident "zero", 22⟩, ⟨.close, 26⟩, ⟨.ending, 27⟩] := by
    iterate 10 refine Token.scanFrom_next (by rfl) (by simp) ?_
    exact Token.scanFrom_ending (by rfl) rfl
  rw [Expr.parse, scanned]
  rfl

theorem regroups_negation : Expr.Regroups false
    (.call "not" [.expr (.or [.ident "zero", .ident "required", .ident "zero"])])
    (.call "not" [.expr (.or [.or [.ident "zero", .ident "required"], .ident "zero"])]) := by
  have some : [Expr.ident "zero", .ident "required"] ≠ [] := List.cons_ne_nil _ _
  have grouped : Expr.Regroups false (.or [.ident "zero", .ident "required", .ident "zero"])
      (.or [.or [.ident "zero", .ident "required"], .ident "zero"]) :=
    .disjuncts [] [.ident "zero"] rfl some
  exact .call "not" (.cons (.rule grouped) .nil)

/-- A negation shows the groups of its argument: `false` is refused, with different messages. -/
theorem negation_shows_groups :
    let book := Rulebook.standard.addFunction (.negation "not")
    let runner : Validator.Runner Id := ⟨fun check root v => check.test root v, fun _ _ => .ok ()⟩
    (∃ handle handle', (book.build "not(zero||required||zero)").1 = .ok handle ∧
      (book.build "not((zero||required)||zero)").1 = .ok handle' ∧
      handle.validator.run runner none (.bool false) =
        .error { code := "not", message := "(zero || required || zero) holds" } ∧
      handle'.validator.run runner none (.bool false) =
        .error { code := "not", message := "((zero || required) || zero) holds" }) ∧
    ¬ book.BuildsLike false "not(zero||required||zero)" "not((zero||required)||zero)" := by
  intro book runner
  have compiles : book.compile (book.parses + 1) "not(zero||required||zero)" =
      .ok ⟨1, .not (.any [.check .zero, .check .required, .check .zero])⟩ := by
    rw [compile_of_parse book _ parse_negation]
    rfl
  have compiles' : book.compile (book.parses + 1) "not((zero||required)||zero)" =
      .ok ⟨1, .not (.any [.any [.check .zero, .check .required], .check .zero])⟩ := by
    rw [compile_of_parse book _ parse_grouped_negation]
    rfl
  have first := Rulebook.build_of_compile rfl compiles
  have second := Rulebook.build_of_compile rfl compiles'
  have outcome : (Validator.not (.any [.check .zero, .check .required, .check .zero])).run runner
      none (.bool false) =
        .error { code := "not", message := "(zero || required || zero) holds" } := by
    rfl
  have outcome' : (Validator.not (.any [.any [.check .zero, .check .required], .check .zero])).run
      runner none (.bool false) =
        .error { code := "not", message := "((zero || required) || zero) holds" } := by
    rfl
  refine ⟨⟨_, _, congrArg Prod.fst first, congrArg Prod.fst second, outcome, outcome'⟩, ?_⟩
  rw [Rulebook.BuildsLike, first, second]
  intro together
  cases together with
  | ok like =>
    have same := like.run Id runner none (.bool false)
    dsimp only at same
    rw [outcome, outcome'] at same
    have message := congrArg Failure.message (Except.error.inj same)
    exact absurd message (by decide)

/-- A text that has been built keeps the symbol of that time. -/
theorem built_text_keeps_symbol :
    let early := Rulebook.standard.addSymbol "limit" (.int 3)
    let book := (early.build "len(limit)&&zero&&zero").2.addSymbol "limit" (.int 5)
    (∃ handle handle', (book.build "len(limit)&&zero&&zero").1 = .ok handle ∧
      (book.build "len(limit)&&(zero&&zero)").1 = .ok handle' ∧
      handle.validator.rule = "len(3) && zero && zero" ∧
      handle'.validator.rule = "len(5) && zero && zero") ∧
    ¬ book.BuildsLike true "len(limit)&&zero&&zero" "len(limit)&&(zero&&zero)" := by
  intro early book
  have compiles : early.compile 1 "len(limit)&&zero&&zero" =
      .ok ⟨1, .all [.check (.lengthIs 3), .check .zero, .check .zero]⟩ := by
    rw [compile_of_parse early 1 parse_conjunction]
    rfl
  have compiles' : (early.addSymbol "limit" (.int 5)).compile 2 "len(limit)&&(zero&&zero)" =
      .ok ⟨2, .all [.check (.lengthIs 5), .all [.check .zero, .check .zero]]⟩ := by
    rw [compile_of_parse _ 2 parse_grouped_conjunction]
    rfl
  have unused : Rulebook.standard.Unused := ⟨rfl, rfl⟩
  obtain ⟨first, second⟩ := Rulebook.build_after_symbol unused (by decide) compiles compiles'
  refine ⟨⟨_, _, first, second, by decide, by decide⟩, ?_⟩
  rw [Rulebook.BuildsLike, first, second]
  intro together
  cases together with
  | ok like => exact absurd (like.rule rfl) (by decide)

/-- Rules that differ only in grouping can be built to validators with different rule texts, if the
text of one has been built before, and to validators with different outcomes, if a function shows
the rule text of its argument. -/
theorem regrouped_builds_otherwise :
    let early := Rulebook.standard.addSymbol "limit" (.int 3)
    let remembering := (early.build "len(limit)&&zero&&zero").2.addSymbol "limit" (.int 5)
    let showing := Rulebook.standard.addFunction (.negation "not")
    (∃ rule rule', Expr.parse "len(limit)&&zero&&zero" = .ok rule ∧
      Expr.parse "len(limit)&&(zero&&zero)" = .ok rule' ∧ rule.Regroups true rule' ∧
      ¬ remembering.BuildsLike true "len(limit)&&zero&&zero" "len(limit)&&(zero&&zero)") ∧
    ∃ rule rule', Expr.parse "not(zero||required||zero)" = .ok rule ∧
      Expr.parse "not((zero||required)||zero)" = .ok rule' ∧ rule.Regroups false rule' ∧
      ¬ showing.BuildsLike false "not(zero||required||zero)" "not((zero||required)||zero)" := by
  intro early remembering showing
  exact ⟨⟨_, _, parse_conjunction, parse_grouped_conjunction, regroups_conjunction,
    built_text_keeps_symbol.2⟩, _, _, parse_negation, parse_grouped_negation, regroups_negation,
    negation_shows_groups.2⟩

end RecordRules

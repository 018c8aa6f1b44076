import RecordRules.Proofs.Rulebook.Evaluation

/-!
# Validators that act alike

Two validators can differ in how they are put together and still have one rule text and give
the same outcomes.  Conjunctions in a conjunction do: their operands could as well be
operands of the outer one.  Disjunctions in a disjunction give the same outcomes as well, but
the rule text shows their parentheses.
-/

namespace RecordRules

open Validator

/-- The validators have one rule text and give the same outcomes. -/
structure ActAlike (w w' : Validator) : Prop where
  rule : w.rule = w'.rule
  descends : w.descends = w'.descends
  run : ∀ (m : Type → Type) [Monad m] [LawfulMonad m] (r : Runner m) (root : Option Value)
    (v : Value), w.run r root v = w'.run r root v

theorem ActAlike.refl (w : Validator) : ActAlike w w :=
  ⟨rfl, rfl, fun _ _ _ _ _ _ => rfl⟩

theorem rules_append (us ws : List Validator) : rules (us ++ ws) = rules us ++ rules ws := by
  induction us with
  | nil => rfl
  | cons u us ih => rw [List.cons_append, rules, rules, ih, List.cons_append]

theorem rules_ne_nil {ws : List Validator} (some : ws ≠ []) : rules ws ≠ [] := by
  cases ws with
  | nil => exact absurd rfl some
  | cons w ws =>
    rw [rules]
    exact List.cons_ne_nil _ _

theorem someDescends_append (us ws : List Validator) :
    someDescends (us ++ ws) = (someDescends us || someDescends ws) := by
  induction us with
  | nil => rfl
  | cons u us ih => rw [List.cons_append, someDescends, someDescends, ih, Bool.or_assoc]

theorem rule_conj (ws : List Validator) : (conj ws).rule = " && ".intercalate (rules ws) := by
  match ws with
  | [w] => rw [conj, rules, rules, String.intercalate_singleton]
  | [] | _ :: _ :: _ => rw [conj, rule]; simp

theorem descends_conj (ws : List Validator) : (conj ws).descends = someDescends ws := by
  match ws with
  | [w] => rw [conj, someDescends, someDescends, Bool.or_false]
  | [] | _ :: _ :: _ => rw [conj, descends]; simp

theorem runAll_append {m : Type → Type} [Monad m] [LawfulMonad m] (r : Runner m)
    (root : Option Value) (us ws : List Validator) (v : Value) :
    runAll r root (us ++ ws) v = do
      match ← runAll r root us v with
      | .ok () => runAll r root ws v
      | .error e => return .error e := by
  induction us with
  | nil => simp [runAll]
  | cons u us ih =>
    rw [List.cons_append, runAll, runAll, ih, bind_assoc]
    congr 1
    funext outcome
    cases outcome with
    | ok _ => rfl
    | error e => simp

/-- Conjunctions in a conjunction are one conjunction of all operands. -/
theorem alike_conj_append {us us' ws : List Validator} {w : Validator}
    (first : ActAlike (conj us) w) (rest : ActAlike (conj us') (conj ws)) (some : us ≠ [])
    (some' : us' ≠ []) (more : ws ≠ []) :
    ActAlike (conj (us ++ us')) (conj (w :: ws)) where
  rule := by
    have firstRule := first.rule
    have restRule := rest.rule
    rw [rule_conj] at firstRule restRule
    rw [rule_conj] at restRule
    rw [rule_conj, rule_conj, rules_append, rules,
      String.intercalate_append_of_ne_nil (rules_ne_nil some) (rules_ne_nil some'),
      String.intercalate_cons_of_ne_nil (rules_ne_nil more), firstRule, restRule]
  descends := by
    have firstDescends := first.descends
    have restDescends := rest.descends
    rw [descends_conj] at firstDescends restDescends
    rw [descends_conj] at restDescends
    rw [descends_conj, descends_conj, someDescends_append, someDescends, firstDescends,
      restDescends]
  run m _ _ r root v := by
    have firstRun := first.run m r root v
    have restRun := rest.run m r root v
    rw [run_conj] at firstRun restRun
    rw [run_conj] at restRun
    have apart := runAll_append r root us us' v
    have together := runAll.eq_2 r root v w ws
    rw [firstRun, restRun] at apart
    rw [run_conj, run_conj]
    exact apart.trans together.symm

/-- The validators give the same outcomes and, if it is to be kept, have one rule text. -/
structure ActsLike (verbatim : Bool) (w w' : Validator) : Prop where
  rule : verbatim = true → w.rule = w'.rule
  descends : w.descends = w'.descends
  run : ∀ (m : Type → Type) [Monad m] [LawfulMonad m] (r : Runner m) (root : Option Value)
    (v : Value), w.run r root v = w'.run r root v

theorem ActAlike.actsLike {w w' : Validator} (alike : ActAlike w w') (verbatim : Bool) :
    ActsLike verbatim w w' :=
  ⟨fun _ => alike.rule, alike.descends, alike.run⟩

theorem ActsLike.actAlike {w w' : Validator} (alike : ActsLike true w w') : ActAlike w w' :=
  ⟨alike.rule rfl, alike.descends, alike.run⟩

section likeness

variable {verbatim : Bool} {u w x : Validator} {us ws : List Validator}

theorem ActsLike.refl (w : Validator) : ActsLike verbatim w w :=
  (ActAlike.refl w).actsLike verbatim

theorem ActsLike.symm (alike : ActsLike verbatim u w) : ActsLike verbatim w u :=
  ⟨fun kept => (alike.rule kept).symm, alike.descends.symm,
    fun m _ _ r root v => (alike.run m r root v).symm⟩

theorem ActsLike.trans (first : ActsLike verbatim u w) (second : ActsLike verbatim w x) :
    ActsLike verbatim u x :=
  ⟨fun kept => (first.rule kept).trans (second.rule kept), first.descends.trans second.descends,
    fun m _ _ r root v => (first.run m r root v).trans (second.run m r root v)⟩

theorem rules_congr (alike : List.Forall₂ (ActsLike true) us ws) : rules us = rules ws := by
  induction alike with
  | nil => rfl
  | cons first _ ih => rw [rules, rules, first.rule rfl, ih]

theorem someDescends_congr (alike : List.Forall₂ (ActsLike verbatim) us ws) :
    someDescends us = someDescends ws := by
  induction alike with
  | nil => rfl
  | cons first _ ih => rw [someDescends, someDescends, first.descends, ih]

theorem runAll_congr {m : Type → Type} [Monad m] [LawfulMonad m]
    (alike : List.Forall₂ (ActsLike verbatim) us ws) (r : Runner m) (root : Option Value)
    (v : Value) : runAll r root us v = runAll r root ws v := by
  induction alike with
  | nil => rfl
  | cons first _ ih => rw [runAll, runAll, first.run, ih]

theorem runAny_congr {m : Type → Type} [Monad m] [LawfulMonad m]
    (alike : List.Forall₂ (ActsLike verbatim) us ws) (r : Runner m) (root : Option Value)
    (soFar : Outcome) (v : Value) : runAny r root us soFar v = runAny r root ws soFar v := by
  induction alike generalizing soFar with
  | nil => rfl
  | cons first _ ih =>
    rw [runAny, runAny, first.run]
    congr 1
    funext outcome
    cases outcome with
    | ok _ => rfl
    | error e => exact ih _

theorem actsLike_conj (alike : List.Forall₂ (ActsLike verbatim) us ws) :
    ActsLike verbatim (conj us) (conj ws) where
  rule kept := by
    subst kept
    rw [rule_conj, rule_conj, rules_congr alike]
  descends := by rw [descends_conj, descends_conj, someDescends_congr alike]
  run m _ _ r root v := by rw [run_conj, run_conj, runAll_congr alike]

theorem actsLike_any (alike : List.Forall₂ (ActsLike verbatim) us ws) :
    ActsLike verbatim (any us) (any ws) where
  rule kept := by
    subst kept
    rw [rule, rule, rules_congr alike]
  descends := by rw [descends, descends, someDescends_congr alike]
  run m _ _ r root v := by rw [run, run, runAny_congr alike]

end likeness

theorem alike_any {us ws : List Validator} (alike : List.Forall₂ ActAlike us ws) :
    ActAlike (any us) (any ws) :=
  (actsLike_any (alike.imp fun _ _ same => same.actsLike true)).actAlike

theorem rule_wrap (c : Container) (w : Validator) :
    (c.wrap w).rule = c.name ++ "(" ++ w.rule ++ ")" := by
  cases c with
  | items => rw [Container.wrap, rule]; rfl
  | parts part => rw [Container.wrap, rule]; rfl

theorem descends_wrap (c : Container) (w : Validator) : (c.wrap w).descends = w.descends := by
  cases c with
  | items => rw [Container.wrap, descends]
  | parts part => rw [Container.wrap, descends]

theorem actsLike_wrap {verbatim : Bool} (c : Container) {u w : Validator}
    (alike : ActsLike verbatim u w) : ActsLike verbatim (c.wrap u) (c.wrap w) where
  rule kept := by rw [rule_wrap, rule_wrap, alike.rule kept]
  descends := by rw [descends_wrap, descends_wrap, alike.descends]
  run m _ _ r root v := by
    rw [run_wrap, run_wrap, funext fun part => alike.run m r root part]

theorem alike_wrap (c : Container) {u w : Validator} (alike : ActAlike u w) :
    ActAlike (c.wrap u) (c.wrap w) :=
  (actsLike_wrap c (alike.actsLike true)).actAlike

end RecordRules

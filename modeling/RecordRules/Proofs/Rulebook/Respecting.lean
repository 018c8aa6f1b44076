import RecordRules.Proofs.Rulebook.Alike
import RecordRules.Rulebook.Function

/-!
# Functions that respect likeness

A function receives validators among its arguments.  It respects likeness if it makes validators
that act alike of arguments that do, or refuses both with one error.  The standard functions do so
(`respects_standard`), since they only look at numbers and texts and hand validators on.  Of other
functions nothing is known: a negation, say, shows the rule text of its argument in a message, so
that it only respects likeness with the rule text (`respects_negation`).
-/

namespace RecordRules

open Validator

section arguments

variable {verbatim : Bool}

/-- The arguments are the same, or validators that act alike. -/
inductive ArgumentsLike (verbatim : Bool) : Argument → Argument → Prop
  | same (arg : Argument) : ArgumentsLike verbatim arg arg
  | rule {handle handle' : Handle} : ActsLike verbatim handle.validator handle'.validator →
    ArgumentsLike verbatim (.rule handle) (.rule handle')

variable {arg arg' : Argument} {args args' : List Argument} {name : String}

theorem typeName_like (like : ArgumentsLike verbatim arg arg') : arg.typeName = arg'.typeName := by
  cases like <;> rfl

theorem number?_like (like : ArgumentsLike verbatim arg arg') : arg.number? = arg'.number? := by
  cases like <;> rfl

theorem integer?_like (like : ArgumentsLike verbatim arg arg') :
    arg.integer? = arg'.integer? := by
  cases like <;> rfl

theorem text?_like (like : ArgumentsLike verbatim arg arg') : arg.text? = arg'.text? := by
  cases like <;> rfl

theorem validator?_like (like : ArgumentsLike verbatim arg arg') :
    Option.Rel (ActsLike verbatim) arg.validator? arg'.validator? := by
  cases like with
  | same arg =>
    cases arg with
    | rule handle => exact .some (ActsLike.refl _)
    | int _ | float _ | str _ | bool _ => exact .none
  | rule like => exact .some like

theorem check_like (like : List.Forall₂ (ArgumentsLike verbatim) args args') (arity : Arity) :
    Arguments.check name arity args = Arguments.check name arity args' := by
  rw [Arguments.check, Arguments.check, like.length_eq]

theorem getElem?_like (like : List.Forall₂ (ArgumentsLike verbatim) args args') (index : Nat) :
    Option.Rel (ArgumentsLike verbatim) args[index]? args'[index]? := by
  induction like generalizing index with
  | nil => exact .none
  | cons first _ ih =>
    cases index with
    | zero => exact .some first
    | succ index => exact ih index

/-- Arguments that are alike are taken to what is related, if they are read to what is. -/
theorem take_like {α : Type} {rel : α → α → Prop} {read : Argument → Option α}
    (reads : ∀ {arg arg'}, ArgumentsLike verbatim arg arg' → Option.Rel rel (read arg) (read arg'))
    (like : List.Forall₂ (ArgumentsLike verbatim) args args') (expected : String) (index : Nat) :
    Together rel (Arguments.take read expected name args index)
      (Arguments.take read expected name args' index) := by
  have found := getElem?_like like index
  rw [Arguments.take, Arguments.take, like.length_eq]
  generalize args[index]? = arg at found ⊢
  generalize args'[index]? = arg' at found ⊢
  cases found with
  | none => exact .error
  | @some arg arg' is =>
    have same := reads is
    dsimp only
    rw [typeName_like is]
    generalize read arg = x at same ⊢
    generalize read arg' = x' at same ⊢
    cases same with
    | none => exact .error
    | some related => exact .ok related

/-- So they are to the same, if they are read to the same. -/
theorem take_eq_of_like {α : Type} {read : Argument → Option α}
    (reads : ∀ {arg arg'}, ArgumentsLike verbatim arg arg' → read arg = read arg')
    (like : List.Forall₂ (ArgumentsLike verbatim) args args') (expected : String) (index : Nat) :
    Arguments.take read expected name args index =
      Arguments.take read expected name args' index := by
  have together : Together Eq (Arguments.take read expected name args index)
      (Arguments.take read expected name args' index) := by
    refine take_like (fun {arg arg'} is => ?_) like expected index
    rw [reads is]
    cases read arg' with
    | none => exact .none
    | some x => exact .some rfl
  generalize Arguments.take read expected name args index = result at together ⊢
  generalize Arguments.take read expected name args' index = result' at together ⊢
  cases together with
  | ok same => rw [same]
  | error => rfl

theorem number_like (like : List.Forall₂ (ArgumentsLike verbatim) args args') :
    Arguments.number name args = Arguments.number name args' :=
  funext (take_eq_of_like number?_like like "a number")

theorem integer_like (like : List.Forall₂ (ArgumentsLike verbatim) args args') :
    Arguments.integer name args = Arguments.integer name args' :=
  funext (take_eq_of_like integer?_like like "an integer")

theorem text_like (like : List.Forall₂ (ArgumentsLike verbatim) args args') :
    Arguments.text name args = Arguments.text name args' :=
  funext (take_eq_of_like text?_like like "a string")

end arguments

namespace Function

variable {verbatim : Bool}

/-- Of arguments that are alike the function makes validators that act alike, or it refuses both
with one error. -/
def Respects (verbatim : Bool) (f : Function) : Prop :=
  ∀ args args', List.Forall₂ (ArgumentsLike verbatim) args args' →
    Together (ActsLike verbatim) (f.build args) (f.build args')

/-- A function that does not look at validators respects likeness. -/
theorem respects_of_eq {f : Function}
    (same : ∀ args args', List.Forall₂ (ArgumentsLike verbatim) args args' →
      f.build args = f.build args') : f.Respects verbatim := by
  intro args args' like
  rw [same args args' like]
  exact .refl ActsLike.refl _

theorem respects_constant (name : String) (v : Validator) :
    (constant name v).Respects verbatim := by
  refine respects_of_eq fun args args' like => ?_
  simp only [constant, check_like like]

theorem respects_ofNumber (name : String) (make : Double → Validator) :
    (ofNumber name make).Respects verbatim := by
  refine respects_of_eq fun args args' like => ?_
  simp only [ofNumber, check_like like, number_like like]

theorem respects_ofTwoNumbers (name : String) (make : Double → Double → Validator) :
    (ofTwoNumbers name make).Respects verbatim := by
  refine respects_of_eq fun args args' like => ?_
  simp only [ofTwoNumbers, check_like like, number_like like]

theorem respects_ofInteger (name : String) (make : Int64 → Validator) :
    (ofInteger name make).Respects verbatim := by
  refine respects_of_eq fun args args' like => ?_
  simp only [ofInteger, check_like like, integer_like like]

theorem respects_ofThreeIntegers (name : String) (make : Int64 → Int64 → Int64 → Validator) :
    (ofThreeIntegers name make).Respects verbatim := by
  refine respects_of_eq fun args args' like => ?_
  simp only [ofThreeIntegers, check_like like, integer_like like]

theorem respects_ofText (name : String) (make : String → Except String Validator) :
    (ofText name make).Respects verbatim := by
  refine respects_of_eq fun args args' like => ?_
  simp only [ofText, check_like like, text_like like]

theorem respects_ofTexts (name : String) (make : List String → Validator) :
    (ofTexts name make).Respects verbatim := by
  refine respects_of_eq fun args args' like => ?_
  simp only [ofTexts, check_like like, text_like like, like.length_eq]

/-- A function that hands validators on respects likeness, if what it makes of them does. -/
theorem respects_ofValidators (name : String) {make : List Validator → Validator}
    (makes : ∀ us ws, List.Forall₂ (ActsLike verbatim) us ws →
      ActsLike verbatim (make us) (make ws)) :
    (ofValidators name make).Respects verbatim := by
  intro args args' like
  rw [ofValidators]
  dsimp only
  rw [check_like like, like.length_eq]
  refine (Together.refl (fun _ => rfl) _).bind fun _ _ _ => ?_
  have each : List.Forall₂ (fun i j => Together (ActsLike verbatim)
      (Arguments.validator name args i) (Arguments.validator name args' j))
      (List.range args'.length) (List.range args'.length) :=
    List.forall₂_same.mpr fun i _ => take_like validator?_like like "a validator" i
  exact (Together.mapM each).bind fun us ws alike => .ok (makes us ws alike)

theorem respects_container (c : Container) : c.function.Respects verbatim :=
  respects_ofValidators c.name fun _ _ alike => actsLike_wrap c (actsLike_conj alike)

/-- The standard functions respect likeness, with the rule text and without. -/
theorem respects_standard : ∀ f ∈ standard, f.Respects verbatim := by
  have formats : ∀ f ∈ TextFormat.all.map ofFormat, f.Respects verbatim := by
    intro f mem
    obtain ⟨format, -, rfl⟩ := List.mem_map.mp mem
    exact respects_constant _ _
  rw [standard, List.forall_mem_append]
  refine ⟨?_, formats⟩
  simp only [List.forall_mem_cons]
  exact ⟨respects_constant _ _, respects_constant _ _, respects_ofNumber _ _, respects_ofNumber _ _,
    respects_ofTwoNumbers _ _, respects_ofInteger _ _, respects_ofTexts _ _,
    respects_ofThreeIntegers _ _, respects_ofText _ _, respects_constant _ _,
    respects_container .items, respects_container (.parts .key), respects_container (.parts .value),
    respects_container (.parts .entry), List.forall_mem_nil _⟩

/-- A negation respects likeness with the rule text, which its messages show. -/
theorem respects_negation (name : String) : (negation name).Respects true := by
  intro args args' like
  rw [negation]
  dsimp only
  rw [check_like like]
  refine (Together.refl (fun _ => rfl) _).bind fun _ _ _ => ?_
  refine (take_like validator?_like like "a validator" 0).bind fun u w alike => .ok ?_
  refine ⟨fun _ => ?_, rfl, fun m _ _ r root v => ?_⟩
  · rw [rule, rule, alike.rule rfl]
  · rw [run, run, alike.run, alike.rule rfl]

end Function

end RecordRules

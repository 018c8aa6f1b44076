import Mathlib.Data.List.Forall2

/-!
# Computations that may fail

What it takes for a sequence of two steps to succeed or to fail, and what it then gives.  Two
computations go `Together` if they fail with one error or give related results.
-/

namespace RecordRules

variable {ε α β γ δ : Type}

/-- A sequence of steps gives a result if both steps do. -/
theorem bind_eq_ok_iff {x : Except ε α} {f : α → Except ε β} {b : β} :
    x >>= f = .ok b ↔ ∃ a, x = .ok a ∧ f a = .ok b := by
  cases x with
  | error e => simp [bind, Except.bind]
  | ok a => simp [bind, Except.bind]

/-- A sequence of steps fails with the error of the step that fails first. -/
theorem bind_eq_error_iff {x : Except ε α} {f : α → Except ε β} {e : ε} :
    x >>= f = .error e ↔ x = .error e ∨ ∃ a, x = .ok a ∧ f a = .error e := by
  cases x with
  | error e' => simp [bind, Except.bind]
  | ok a => simp [bind, Except.bind]

theorem map_eq_ok_iff {x : Except ε α} {f : α → β} {b : β} :
    x.map f = .ok b ↔ ∃ a, x = .ok a ∧ f a = b := by
  cases x with
  | error e => simp [Except.map]
  | ok a => simp [Except.map]

theorem map_eq_error_iff {x : Except ε α} {f : α → β} {e : ε} :
    x.map f = .error e ↔ x = .error e := by
  cases x with
  | error e' => simp [Except.map]
  | ok a => simp [Except.map]

/-- A computation for each member of a list gives a list if each one gives its member. -/
theorem mapM_eq_ok_iff {f : α → Except ε β} {as : List α} {bs : List β} :
    as.mapM f = .ok bs ↔ List.Forall₂ (fun a b => f a = .ok b) as bs := by
  constructor
  · intro ok
    induction as generalizing bs with
    | nil =>
      cases ok
      exact .nil
    | cons a as ih =>
      rw [List.mapM_cons] at ok
      rcases bind_eq_ok_iff.mp ok with ⟨b, first, ok⟩
      rcases bind_eq_ok_iff.mp ok with ⟨bs, rest, ok⟩
      cases ok
      exact .cons first (ih rest)
  · intro each
    induction each with
    | nil => rfl
    | cons first _ ih =>
      rw [List.mapM_cons, first, ih]
      rfl

theorem ok_of_toOption {x : Except ε α} {a : α} (some : x.toOption = some a) : x = .ok a := by
  cases x with
  | error e => cases some
  | ok b =>
    cases some
    rfl

/-- Both fail with one error, or both give results, and these are related. -/
inductive Together (rel : α → β → Prop) : Except ε α → Except ε β → Prop
  | ok {a : α} {b : β} : rel a b → Together rel (.ok a) (.ok b)
  | error {e : ε} : Together rel (.error e) (.error e)

namespace Together

variable {rel : α → β → Prop} {x : Except ε α} {y : Except ε β}

theorem refl {rel : α → α → Prop} (same : ∀ a, rel a a) (x : Except ε α) : Together rel x x := by
  cases x with
  | error e => exact .error
  | ok a => exact .ok (same a)

theorem of_eq {x y : Except ε α} (same : x = y) : Together Eq x y := by
  rw [same]
  exact refl (fun _ => rfl) y

theorem symm {rel' : β → α → Prop} (together : Together rel x y)
    (turned : ∀ a b, rel a b → rel' b a) : Together rel' y x := by
  cases together with
  | ok related => exact .ok (turned _ _ related)
  | error => exact .error

theorem trans {rel' : β → γ → Prop} {rel'' : α → γ → Prop} {z : Except ε γ}
    (first : Together rel x y) (second : Together rel' y z)
    (chained : ∀ a b c, rel a b → rel' b c → rel'' a c) : Together rel'' x z := by
  cases first with
  | ok related =>
    cases second with
    | ok related' => exact .ok (chained _ _ _ related related')
  | error =>
    cases second with
    | error => exact .error

/-- Steps that go together on related results can follow. -/
theorem bind {rel' : γ → δ → Prop} {f : α → Except ε γ} {g : β → Except ε δ}
    (first : Together rel x y) (second : ∀ a b, rel a b → Together rel' (f a) (g b)) :
    Together rel' (x >>= f) (y >>= g) := by
  cases first with
  | ok related => exact second _ _ related
  | error => exact .error

theorem map {rel' : γ → δ → Prop} {f : α → γ} {g : β → δ} (together : Together rel x y)
    (related : ∀ a b, rel a b → rel' (f a) (g b)) : Together rel' (x.map f) (y.map g) := by
  cases together with
  | ok is => exact .ok (related _ _ is)
  | error => exact .error

theorem of_map {rel' : γ → δ → Prop} {f : α → γ} {g : β → δ}
    (together : Together rel' (x.map f) (y.map g)) :
    Together (fun a b => rel' (f a) (g b)) x y := by
  cases x with
  | error e =>
    cases y with
    | error e' =>
      cases together
      exact .error
    | ok b => cases together
  | ok a =>
    cases y with
    | error e' => cases together
    | ok b =>
      cases together with
      | ok related => exact .ok related

/-- What goes together on each of two lists goes together on the lists. -/
theorem mapM {f : α → Except ε γ} {g : β → Except ε δ} {rel' : γ → δ → Prop} {as : List α}
    {bs : List β} (each : List.Forall₂ (fun a b => Together rel' (f a) (g b)) as bs) :
    Together (List.Forall₂ rel') (as.mapM f) (bs.mapM g) := by
  induction each with
  | nil => exact .ok .nil
  | cons first _ ih =>
    rw [List.mapM_cons, List.mapM_cons]
    refine first.bind fun c d related => ?_
    exact ih.bind fun cs ds others => .ok (.cons related others)

end Together

end RecordRules

import RecordRules.Proofs.Rule.Parse.Complete

/-!
# Derivations are unique

No two derivations spell the same tokens.  The statements look at derivations with
something behind them, of which only the first token matters: it must be one that does not
go on the derivation.
-/

namespace RecordRules.Parse

open RecordRules.Derivation

/-- What follows, if anything does, starts with a token of these kinds. -/
def Follows (P : TokenKind → Prop) (rest : List TokenKind) : Prop :=
  ∀ k ks, rest = k :: ks → P k

theorem Follows.mono {P Q : TokenKind → Prop} {rest : List TokenKind} (follows : Follows P rest)
    (imp : ∀ k, P k → Q k) : Follows Q rest :=
  fun k ks eq => imp k (follows k ks eq)

theorem follows_cons {P : TokenKind → Prop} {k : TokenKind} {ks : List TokenKind} (holds : P k) :
    Follows P (k :: ks) := by
  rintro _ _ ⟨⟩
  exact holds

theorem Follows.nil {P : TokenKind → Prop} : Follows P [] := by
  rintro _ _ ⟨⟩

/-! A derivation ends at every token that the grammar allows behind it. -/

theorem primary_endsAt (d : Primary) {k : TokenKind} (ends : EndsPrimary k) : d.EndsAt k := by
  cases d with
  | name _ => exact ⟨ends.ne_open, ends.ne_equal⟩
  | enclosed _ | call _ _ | comparison _ _ => trivial

theorem conjunction_endsAt (d : Conjunction) {k : TokenKind} (ends : EndsOperand k) :
    d.EndsAt k := by
  obtain ⟨first, rest⟩ := d
  exact ⟨ends.ne_and, fun d _ => primary_endsAt d (.inr ends)⟩

theorem disjunction_endsAt (d : Disjunction) {k : TokenKind} (ends : EndsRule k) : d.EndsAt k := by
  obtain ⟨first, rest⟩ := d
  exact ⟨ends.ne_or, fun d _ => conjunction_endsAt d (.inr ends)⟩

theorem arg_endsAt (d : Passed) {k : TokenKind} (ends : EndsRule k) : d.EndsAt k := by
  cases d with
  | literal _ => trivial
  | rule rule => exact disjunction_endsAt rule ends

/-! What is behind a chain is behind its last operand. -/

theorem follows_disjuncts {rest : List TokenKind} {first : Conjunction} {others : List Conjunction}
    (follows : Follows (disjunctsEndAt (first :: others)) rest) :
    Follows first.EndsAt (disjunctKinds others ++ rest) ∧ Follows (disjunctsEndAt others) rest := by
  cases others with
  | nil =>
    rw [disjunctKinds, List.nil_append]
    exact ⟨follows.mono fun k ends => ends.2 first rfl,
      follows.mono fun k ends => ⟨ends.1, fun _ is => by cases is⟩⟩
  | cons second others =>
    rw [disjunctKinds]
    exact ⟨follows_cons (conjunction_endsAt first (.inl rfl)), follows⟩

theorem follows_conjuncts {rest : List TokenKind} {first : Primary} {others : List Primary}
    (follows : Follows (conjunctsEndAt (first :: others)) rest) :
    Follows first.EndsAt (conjunctKinds others ++ rest) ∧ Follows (conjunctsEndAt others) rest := by
  cases others with
  | nil =>
    rw [conjunctKinds, List.nil_append]
    exact ⟨follows.mono fun k ends => ends.2 first rfl,
      follows.mono fun k ends => ⟨ends.1, fun _ is => by cases is⟩⟩
  | cons second others =>
    rw [conjunctKinds]
    exact ⟨follows_cons (primary_endsAt first (.inl rfl)), follows⟩

theorem follows_argKinds {rest : List TokenKind} (ds : List Passed) :
    Follows EndsRule (argKinds ds ++ rest) := by
  cases ds with
  | nil => rw [argKinds]; exact follows_cons (.inl rfl)
  | cons d ds => rw [argKinds]; exact follows_cons (.inr (.inl rfl))

theorem literal_not_startsRule (value : Constant) : ¬ StartsRule value.kind := by
  rintro (starts | ⟨name, starts⟩) <;> cases value <;> cases starts

theorem literal_kind_injective {value value' : Constant} (same : value.kind = value'.kind) :
    value = value' := by
  cases value <;> cases value' <;> simp_all [Constant.kind]

mutual

theorem disjunction_unique (d d' : Disjunction) {rest rest' : List TokenKind}
    (same : d.kinds ++ rest = d'.kinds ++ rest') (follows : Follows d.EndsAt rest)
    (follows' : Follows d'.EndsAt rest') : d = d' ∧ rest = rest' := by
  match d, d' with
  | .chain first others, .chain first' others' =>
    rw [Disjunction.kinds, Disjunction.kinds, List.append_assoc, List.append_assoc] at same
    rcases follows_disjuncts follows with ⟨ends, later⟩
    rcases follows_disjuncts follows' with ⟨ends', later'⟩
    rcases conjunction_unique first first' same ends ends' with ⟨rfl, sameOthers⟩
    rcases disjuncts_unique others others' sameOthers later later' with ⟨rfl, sameRest⟩
    exact ⟨rfl, sameRest⟩

theorem disjuncts_unique (ds ds' : List Conjunction) {rest rest' : List TokenKind}
    (same : disjunctKinds ds ++ rest = disjunctKinds ds' ++ rest')
    (follows : Follows (disjunctsEndAt ds) rest)
    (follows' : Follows (disjunctsEndAt ds') rest') : ds = ds' ∧ rest = rest' := by
  match ds, ds' with
  | [], [] => exact ⟨rfl, by simpa only [disjunctKinds, List.nil_append] using same⟩
  | [], second :: others' =>
    rw [disjunctKinds, disjunctKinds, List.nil_append, List.cons_append] at same
    exact absurd rfl (follows _ _ same).1
  | second :: others, [] =>
    rw [disjunctKinds, disjunctKinds, List.nil_append, List.cons_append] at same
    exact absurd rfl (follows' _ _ same.symm).1
  | first :: others, first' :: others' =>
    rw [disjunctKinds, disjunctKinds, List.cons_append, List.cons_append, List.append_assoc,
      List.append_assoc] at same
    rcases List.cons.inj same with ⟨-, sameFirst⟩
    rcases follows_disjuncts follows with ⟨ends, later⟩
    rcases follows_disjuncts follows' with ⟨ends', later'⟩
    rcases conjunction_unique first first' sameFirst ends ends' with ⟨rfl, sameOthers⟩
    rcases disjuncts_unique others others' sameOthers later later' with ⟨rfl, sameRest⟩
    exact ⟨rfl, sameRest⟩

theorem conjunction_unique (d d' : Conjunction) {rest rest' : List TokenKind}
    (same : d.kinds ++ rest = d'.kinds ++ rest') (follows : Follows d.EndsAt rest)
    (follows' : Follows d'.EndsAt rest') : d = d' ∧ rest = rest' := by
  match d, d' with
  | .chain first others, .chain first' others' =>
    rw [Conjunction.kinds, Conjunction.kinds, List.append_assoc, List.append_assoc] at same
    rcases follows_conjuncts follows with ⟨ends, later⟩
    rcases follows_conjuncts follows' with ⟨ends', later'⟩
    rcases primary_unique first first' same ends ends' with ⟨rfl, sameOthers⟩
    rcases conjuncts_unique others others' sameOthers later later' with ⟨rfl, sameRest⟩
    exact ⟨rfl, sameRest⟩

theorem conjuncts_unique (ds ds' : List Primary) {rest rest' : List TokenKind}
    (same : conjunctKinds ds ++ rest = conjunctKinds ds' ++ rest')
    (follows : Follows (conjunctsEndAt ds) rest)
    (follows' : Follows (conjunctsEndAt ds') rest') : ds = ds' ∧ rest = rest' := by
  match ds, ds' with
  | [], [] => exact ⟨rfl, by simpa only [conjunctKinds, List.nil_append] using same⟩
  | [], second :: others' =>
    rw [conjunctKinds, conjunctKinds, List.nil_append, List.cons_append] at same
    exact absurd rfl (follows _ _ same).1
  | second :: others, [] =>
    rw [conjunctKinds, conjunctKinds, List.nil_append, List.cons_append] at same
    exact absurd rfl (follows' _ _ same.symm).1
  | first :: others, first' :: others' =>
    rw [conjunctKinds, conjunctKinds, List.cons_append, List.cons_append, List.append_assoc,
      List.append_assoc] at same
    rcases List.cons.inj same with ⟨-, sameFirst⟩
    rcases follows_conjuncts follows with ⟨ends, later⟩
    rcases follows_conjuncts follows' with ⟨ends', later'⟩
    rcases primary_unique first first' sameFirst ends ends' with ⟨rfl, sameOthers⟩
    rcases conjuncts_unique others others' sameOthers later later' with ⟨rfl, sameRest⟩
    exact ⟨rfl, sameRest⟩

theorem primary_unique (d d' : Primary) {rest rest' : List TokenKind}
    (same : d.kinds ++ rest = d'.kinds ++ rest') (follows : Follows d.EndsAt rest)
    (follows' : Follows d'.EndsAt rest') : d = d' ∧ rest = rest' := by
  match d, d' with
  | .enclosed inner, .enclosed inner' =>
    rw [Primary.kinds, Primary.kinds, List.cons_append, List.cons_append, List.append_assoc,
      List.append_assoc] at same
    rcases List.cons.inj same with ⟨-, sameInner⟩
    have closes : Follows inner.EndsAt ([.close] ++ rest) :=
      follows_cons (disjunction_endsAt inner (.inl rfl))
    have closes' : Follows inner'.EndsAt ([.close] ++ rest') :=
      follows_cons (disjunction_endsAt inner' (.inl rfl))
    rcases disjunction_unique inner inner' sameInner closes closes' with ⟨rfl, sameClose⟩
    exact ⟨rfl, (List.cons.inj sameClose).2⟩
  | .name name, .name name' =>
    rw [Primary.kinds, Primary.kinds] at same
    rcases List.cons.inj same with ⟨⟨⟩, rfl⟩
    exact ⟨rfl, rfl⟩
  | .call name [], .call name' [] =>
    rw [Primary.kinds, Primary.kinds] at same
    rcases List.cons.inj same with ⟨⟨⟩, sameSign⟩
    rcases List.cons.inj sameSign with ⟨-, sameClose⟩
    exact ⟨rfl, (List.cons.inj sameClose).2⟩
  | .call name (first :: others), .call name' (first' :: others') =>
    simp only [Primary.kinds, List.cons_append, List.append_assoc] at same
    rcases List.cons.inj same with ⟨⟨⟩, sameSign⟩
    rcases List.cons.inj sameSign with ⟨-, sameArgs⟩
    have ends : Follows first.EndsAt (argKinds others ++ rest) :=
      (follows_argKinds others).mono fun _ => arg_endsAt first
    have ends' : Follows first'.EndsAt (argKinds others' ++ rest') :=
      (follows_argKinds others').mono fun _ => arg_endsAt first'
    rcases arg_unique first first' sameArgs ends ends' with ⟨rfl, sameOthers⟩
    rcases args_unique others others' sameOthers with ⟨rfl, sameRest⟩
    exact ⟨rfl, sameRest⟩
  | .comparison name value, .comparison name' value' =>
    simp only [Primary.kinds, List.cons_append] at same
    rcases List.cons.inj same with ⟨⟨⟩, sameSign⟩
    rcases List.cons.inj sameSign with ⟨-, sameValue⟩
    rcases operand_unique value value' sameValue with ⟨rfl, sameRest⟩
    exact ⟨rfl, sameRest⟩
  | .name name, .call name' [] | .name name, .call name' (_ :: _) =>
    simp only [Primary.kinds, List.cons_append, List.nil_append] at same
    exact absurd rfl (follows _ _ (List.cons.inj same).2).1
  | .call name [], .name name' | .call name (_ :: _), .name name' =>
    simp only [Primary.kinds, List.cons_append, List.nil_append] at same
    exact absurd rfl (follows' _ _ (List.cons.inj same).2.symm).1
  | .name name, .comparison name' value =>
    simp only [Primary.kinds, List.cons_append, List.nil_append] at same
    exact absurd rfl (follows _ _ (List.cons.inj same).2).2
  | .comparison name value, .name name' =>
    simp only [Primary.kinds, List.cons_append, List.nil_append] at same
    exact absurd rfl (follows' _ _ (List.cons.inj same).2.symm).2
  | .call name [], .call name' (first :: others) =>
    rcases arg_starts first with ⟨k, ks, kinds, starts⟩
    simp [Primary.kinds, kinds, starts.symm] at same
  | .call name (first :: others), .call name' [] =>
    rcases arg_starts first with ⟨k, ks, kinds, starts⟩
    simp [Primary.kinds, kinds, starts] at same
  | .enclosed _, .name _ | .enclosed _, .call _ [] | .enclosed _, .call _ (_ :: _)
  | .enclosed _, .comparison _ _ | .name _, .enclosed _ | .call _ [], .enclosed _
  | .call _ (_ :: _), .enclosed _ | .comparison _ _, .enclosed _ | .call _ [], .comparison _ _
  | .call _ (_ :: _), .comparison _ _ | .comparison _ _, .call _ []
  | .comparison _ _, .call _ (_ :: _) =>
    simp [Primary.kinds] at same

theorem args_unique (ds ds' : List Passed) {rest rest' : List TokenKind}
    (same : argKinds ds ++ rest = argKinds ds' ++ rest') : ds = ds' ∧ rest = rest' := by
  match ds, ds' with
  | [], [] =>
    rw [argKinds] at same
    exact ⟨rfl, (List.cons.inj same).2⟩
  | [], _ :: _ => simp [argKinds] at same
  | _ :: _, [] => simp [argKinds] at same
  | first :: others, first' :: others' =>
    rw [argKinds, argKinds, List.cons_append, List.cons_append, List.append_assoc,
      List.append_assoc] at same
    rcases List.cons.inj same with ⟨-, sameArgs⟩
    have ends : Follows first.EndsAt (argKinds others ++ rest) :=
      (follows_argKinds others).mono fun _ => arg_endsAt first
    have ends' : Follows first'.EndsAt (argKinds others' ++ rest') :=
      (follows_argKinds others').mono fun _ => arg_endsAt first'
    rcases arg_unique first first' sameArgs ends ends' with ⟨rfl, sameOthers⟩
    rcases args_unique others others' sameOthers with ⟨rfl, sameRest⟩
    exact ⟨rfl, sameRest⟩

theorem arg_unique (d d' : Passed) {rest rest' : List TokenKind}
    (same : d.kinds ++ rest = d'.kinds ++ rest') (follows : Follows d.EndsAt rest)
    (follows' : Follows d'.EndsAt rest') : d = d' ∧ rest = rest' := by
  match d, d' with
  | .literal value, .literal value' =>
    rw [Passed.kinds, Passed.kinds] at same
    rcases List.cons.inj same with ⟨kind, rfl⟩
    exact ⟨by rw [literal_kind_injective kind], rfl⟩
  | .rule rule, .rule rule' =>
    rw [Passed.kinds, Passed.kinds] at same
    rcases disjunction_unique rule rule' same follows follows' with ⟨rfl, sameRest⟩
    exact ⟨rfl, sameRest⟩
  | .literal value, .rule rule =>
    rcases disjunction_starts rule with ⟨k, ks, kinds, starts⟩
    rw [Passed.kinds, Passed.kinds, kinds] at same
    rw [← (List.cons.inj same).1] at starts
    exact absurd starts (literal_not_startsRule value)
  | .rule rule, .literal value =>
    rcases disjunction_starts rule with ⟨k, ks, kinds, starts⟩
    rw [Passed.kinds, Passed.kinds, kinds] at same
    rw [(List.cons.inj same).1] at starts
    exact absurd starts (literal_not_startsRule value)

theorem operand_unique (d d' : Operand) {rest rest' : List TokenKind}
    (same : d.kinds ++ rest = d'.kinds ++ rest') : d = d' ∧ rest = rest' := by
  match d, d' with
  | .literal value, .literal value' =>
    rw [Operand.kinds, Operand.kinds] at same
    rcases List.cons.inj same with ⟨kind, rfl⟩
    exact ⟨by rw [literal_kind_injective kind], rfl⟩
  | .name name, .name name' =>
    rw [Operand.kinds, Operand.kinds] at same
    rcases List.cons.inj same with ⟨⟨⟩, rfl⟩
    exact ⟨rfl, rfl⟩
  | .enclosed inner, .enclosed inner' =>
    rw [Operand.kinds, Operand.kinds, List.cons_append, List.cons_append, List.append_assoc,
      List.append_assoc] at same
    rcases List.cons.inj same with ⟨-, sameInner⟩
    have closes : Follows inner.EndsAt ([.close] ++ rest) :=
      follows_cons (disjunction_endsAt inner (.inl rfl))
    have closes' : Follows inner'.EndsAt ([.close] ++ rest') :=
      follows_cons (disjunction_endsAt inner' (.inl rfl))
    rcases disjunction_unique inner inner' sameInner closes closes' with ⟨rfl, sameClose⟩
    exact ⟨rfl, (List.cons.inj sameClose).2⟩
  | .literal value, .name name | .literal value, .enclosed inner | .name name, .literal value
  | .enclosed inner, .literal value =>
    cases value <;> simp [Operand.kinds, Constant.kind] at same
  | .name _, .enclosed _ | .enclosed _, .name _ => simp [Operand.kinds] at same

end

end RecordRules.Parse

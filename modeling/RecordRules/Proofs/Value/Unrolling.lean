import Mathlib.Data.List.Nodup
import Mathlib.Data.List.Perm.Subperm
import RecordRules.Proofs.Value.Filling

/-!
# Filling absent values

An absent value is filled with the zero value of what it may hold, and the literal goes to that
(`Value.concurs_absent`).  The zero value may end in an absent value again, which is filled in
turn; the definition bounds how often, and looks through at most so many names on the way to a
zero value.  Neither bound is ever felt.

The reason is the same for both.  What comes next on the way is determined by where one is, so a
way that comes to an end visits no place twice, and then it has no more steps than there are
places (`EndsWithin.lt_length`).  A way without an end does not matter: whatever the bound, the
filling fails.
-/

namespace RecordRules

/-! ## Ways that come to an end -/

section ways

variable {α : Type} {next : α → Option α} {places : List α}

/-- The way from a place ends after so many steps, and all places on it are among these. -/
inductive EndsWithin (next : α → Option α) (places : List α) : Nat → α → Prop
  | here {a : α} : a ∈ places → next a = none → EndsWithin next places 0 a
  | step {a b : α} {k : Nat} : a ∈ places → next a = some b → EndsWithin next places k b →
    EndsWithin next places (k + 1) a

/-- Other places do as well, if one of them leads only to others of them. -/
theorem EndsWithin.among {places' : List α} {k : Nat} {a : α} (ends : EndsWithin next places k a)
    (closed : ∀ a ∈ places', ∀ b, next a = some b → b ∈ places') (mem : a ∈ places') :
    EndsWithin next places' k a := by
  induction ends with
  | here _ stops => exact .here mem stops
  | step _ goes _ ih => exact .step mem goes (ih (closed _ mem _ goes))

/-- A place has one distance from the end. -/
theorem EndsWithin.unique {k k' : Nat} {a : α} (ends : EndsWithin next places k a)
    (ends' : EndsWithin next places k' a) : k = k' := by
  induction ends generalizing k' with
  | here _ stops =>
    cases ends' with
    | here _ _ => rfl
    | step _ goes _ => simp [stops] at goes
  | step _ goes _ ih =>
    cases ends' with
    | here _ stops => simp [stops] at goes
    | step _ goes' rest =>
      obtain rfl : _ = _ := Option.some.inj (goes.symm.trans goes')
      exact congrArg Nat.succ (ih rest)

/-- The places on a way that ends are all different, since they differ in their distances. -/
theorem EndsWithin.exists_visited {k : Nat} {a : α} (ends : EndsWithin next places k a) :
    ∃ visited : List α, visited.length = k + 1 ∧ visited.Nodup ∧ visited ⊆ places ∧
      ∀ b ∈ visited, ∃ j ≤ k, EndsWithin next places j b := by
  induction ends with
  | @here a mem stops =>
    refine ⟨[a], rfl, List.nodup_singleton a, by simpa using mem, fun b visits => ?_⟩
    rw [List.mem_singleton.mp visits]
    exact ⟨0, Nat.le_refl 0, .here mem stops⟩
  | @step a b k mem goes rest ih =>
    obtain ⟨visited, length, nodup, among, ending⟩ := ih
    have fresh : a ∉ visited := by
      intro visits
      obtain ⟨j, near, again⟩ := ending a visits
      have far := again.unique (.step mem goes rest)
      omega
    refine ⟨a :: visited, by simp [length], nodup.cons fresh, by simp [mem, among], ?_⟩
    intro c visits
    rcases List.mem_cons.mp visits with is | visits
    · exact ⟨k + 1, Nat.le_refl _, is ▸ .step mem goes rest⟩
    · obtain ⟨j, near, again⟩ := ending c visits
      exact ⟨j, by omega, again⟩

/-- A way that ends has fewer steps than there are places. -/
theorem EndsWithin.lt_length {k : Nat} {a : α} (ends : EndsWithin next places k a) :
    k < places.length := by
  obtain ⟨visited, length, nodup, among, -⟩ := ends.exists_visited
  have fits := (List.subperm_of_subset nodup among).length_le
  omega

end ways

/-! ## Where zero values end -/

namespace Shape

/-- What the optional types in a shape hold that are met before anything else but pointers. -/
def contents : Shape → List Shape
  | option content => content :: content.contents
  | box content => content.contents
  | _ => []

theorem length_contents (s : Shape) : s.contents.length = s.optionDepth := by
  match s with
  | option content => simp [contents, optionDepth, length_contents content]
  | box content => simp [contents, optionDepth, length_contents content]
  | bool | integer _ | single | double | text | fixedText | json | seq _ | array _ _ | map _ _
  | record _ _ | named _ => rfl

theorem contents_subset {s inner : Shape} (mem : inner ∈ s.contents) :
    inner.contents ⊆ s.contents := by
  match s with
  | option content =>
    rcases List.mem_cons.mp mem with is | mem
    · rw [is]
      exact List.subset_cons_self _ _
    · exact List.Subset.trans (contents_subset mem) (List.subset_cons_self _ _)
  | box content =>
    have deeper : inner.contents ⊆ content.contents := contents_subset mem
    exact deeper
  | bool | integer _ | single | double | text | fixedText | json | seq _ | array _ _ | map _ _
  | record _ _ | named _ => cases mem

/-- What optional types hold that stand behind names. -/
def namedContents (types : TypeTable) : List Shape :=
  types.flatMap fun t => t.2.contents

/-- The shapes that filling can meet, starting from one of them. -/
def fillable (types : TypeTable) (start : Shape) : List Shape :=
  start :: (start.contents ++ namedContents types)

theorem length_fillable_le (types : TypeTable) (start : Shape) :
    (fillable types start).length ≤ (Content.mk start types).fillDepth := by
  have sums : ∀ (types : TypeTable) (depth : Nat), (namedContents types).length + depth ≤
      types.foldl (fun depth t => depth + t.2.optionDepth + 1) depth := by
    intro types
    induction types with
    | nil => simp [namedContents]
    | cons t types ih =>
      intro depth
      have rest := ih (depth + t.2.optionDepth + 1)
      simp only [namedContents, List.flatMap_cons, List.length_append, length_contents,
        List.foldl_cons] at rest ⊢
      omega
  have all := sums types (start.optionDepth + 1)
  simp only [fillable, List.length_cons, List.length_append, length_contents, Content.fillDepth]
  omega

theorem fillable_closed {types : TypeTable} {start s inner : Shape}
    (mem : s ∈ fillable types start) (next : inner ∈ s.contents ∨ inner ∈ namedContents types) :
    inner ∈ fillable types start := by
  refine List.mem_cons_of_mem _ (List.mem_append.mpr ?_)
  rcases next with inside | named
  · rcases List.mem_cons.mp mem with is | mem
    · exact .inl (is ▸ inside)
    · rcases List.mem_append.mp mem with mem | mem
      · exact .inl (contents_subset mem inside)
      · obtain ⟨t, listed, mem⟩ := List.mem_flatMap.mp mem
        exact .inr (List.mem_flatMap.mpr ⟨t, listed, contents_subset mem inside⟩)
  · exact .inr named

/-- An absent value at the end of a zero value comes from an optional type, of the shape itself
or behind a name. -/
theorem absent_of_zeroWith {types : TypeTable} {resolve : String → Value}
    (names : ∀ name content, (resolve name).indirect = .absent content →
      content.types = types ∧ content.shape ∈ namedContents types)
    (s : Shape) {content : Content} (ends : (s.zeroWith types resolve).indirect = .absent content) :
    content.types = types ∧ (content.shape ∈ s.contents ∨ content.shape ∈ namedContents types) := by
  match s with
  | option inner =>
    obtain rfl : Content.mk inner types = content := Value.absent.inj ends
    exact ⟨rfl, .inl List.mem_cons_self⟩
  | box inner =>
    have behind : (inner.zeroWith types resolve).indirect = .absent content := ends
    exact absent_of_zeroWith names inner behind
  | named name =>
    obtain ⟨same, mem⟩ := names name content ends
    exact ⟨same, .inr mem⟩
  | bool | integer _ | single | double | text | fixedText | json | seq _ | array _ _ | map _ _
  | record _ _ => cases ends

theorem absent_of_zeroOfName {types : TypeTable} (depth : Nat) (name : String) {content : Content}
    (ends : (zeroOfName types depth name).indirect = .absent content) :
    content.types = types ∧ content.shape ∈ namedContents types := by
  induction depth generalizing name content with
  | zero => cases ends
  | succ depth ih =>
    rw [zeroOfName] at ends
    split at ends
    · next s found =>
      obtain ⟨same, mem⟩ := absent_of_zeroWith (fun name content => ih name) s ends
      refine ⟨same, ?_⟩
      rcases mem with inside | named
      · exact List.mem_flatMap.mpr ⟨_, List.mem_of_find?_eq_some found, inside⟩
      · exact named
    · cases ends

theorem absent_of_zero {types : TypeTable} {s : Shape} {content : Content}
    (ends : (s.zero types).indirect = .absent content) :
    content.types = types ∧ (content.shape ∈ s.contents ∨ content.shape ∈ namedContents types) :=
  absent_of_zeroWith (fun name _ => absent_of_zeroOfName _ name) s ends

/-- The shape of what the absent value at the end of a zero value may hold. -/
def inner? (types : TypeTable) (s : Shape) : Option Shape :=
  match (s.zero types).indirect with
  | .absent content => some content.shape
  | _ => none

theorem inner?_eq_some_iff {types : TypeTable} {s inner : Shape} :
    s.inner? types = some inner ↔ (s.zero types).indirect = .absent ⟨inner, types⟩ := by
  rw [inner?]
  constructor
  · intro is
    split at is
    · next content ends =>
      obtain ⟨same, -⟩ := absent_of_zero ends
      rw [ends, ← Option.some.inj is, ← same]
    · cases is
  · intro ends
    rw [ends]

theorem inner?_closed {types : TypeTable} (start : Shape) :
    ∀ s ∈ fillable types start, ∀ inner, s.inner? types = some inner →
      inner ∈ fillable types start := by
  intro s mem inner goes
  obtain ⟨-, next⟩ := absent_of_zero (inner?_eq_some_iff.mp goes)
  exact fillable_closed mem next

theorem inner?_eq_none_iff {types : TypeTable} {s : Shape} :
    s.inner? types = none ↔ ∀ content, (s.zero types).indirect ≠ .absent content := by
  rw [inner?]
  split
  · next content ends => simp [ends]
  · next other => simpa using other

end Shape

/-! ## Filling again and again -/

namespace Value

theorem Concurs.refl (r : Assigned) : Concurs r r :=
  ⟨rfl, fun _ => rfl⟩

theorem Concurs.symm {r r' : Assigned} (same : Concurs r r') : Concurs r' r :=
  ⟨same.1.symm, fun ok => (same.2 (same.1.trans ok)).symm⟩

theorem Concurs.trans {r r' r'' : Assigned} (same : Concurs r r') (same' : Concurs r' r'') :
    Concurs r r'' :=
  ⟨same.1.trans same'.1, fun ok => (same.2 ok).trans (same'.2 (same.1.symm.trans ok))⟩

theorem concurs_of_error {r r' : Assigned} {e : SetError} (error : r.1 = .error e)
    (error' : r'.1 = .error e) : Concurs r r' :=
  ⟨error.trans error'.symm, fun ok => by simp [error] at ok⟩

/-- Filling matters only to the absent value at the end of the pointers. -/
theorem concurs_fill {fill fill' : Content → Assigned} (l : Literal) :
    ∀ v : Value, (∀ content, v.indirect = absent content → Concurs (fill content) (fill' content)) →
      Concurs (v.assignWith fill l) (v.assignWith fill' l)
  | .absent content, same => by
    rw [assignWith, assignWith]
    split
    · exact .refl _
    · exact same content rfl
  | .present content target, same => by
    rw [assignWith, assignWith]
    split
    · exact .refl _
    · exact (concurs_fill l target same).behind (present content)
  | .boxed target, same => (concurs_fill l target same).behind boxed
  | .bool _, _ | .integer _ _, _ | .single _, _ | .double _, _ | .text _, _ | .fixedText _, _
  | .json _, _ | .seq _, _ | .map _, _ | .record _ _, _ | .entry _ _, _ => .refl _

/-- What an assignment to an absent value behind pointers comes to is what filling comes to. -/
theorem assignWith_absent {fill : Content → Assigned} {l : Literal} (nonnull : l ≠ .null)
    {v : Value} {content : Content} (ends : v.indirect = absent content) :
    (v.assignWith fill l).1 = (fill content).1 := by
  match v with
  | .absent _ =>
    obtain rfl : _ = content := absent.inj ends
    rw [assignWith, if_neg nonnull]
  | .present _ target =>
    rw [assignWith, if_neg nonnull]
    exact assignWith_absent nonnull (v := target) ends
  | .boxed target =>
    rw [assignWith]
    exact assignWith_absent nonnull (v := target) ends
  | .bool _ | .integer _ _ | .single _ | .double _ | .text _ | .fixedText _ | .json _ | .seq _
  | .map _ | .record _ _ | .entry _ _ => cases ends

section depth

variable {l : Literal} {types : TypeTable} {places : List Shape}

/-- More depth than there is to fill makes no difference. -/
theorem concurs_fillWith_of_ends {k : Nat} {s : Shape}
    (ends : EndsWithin (Shape.inner? types) places k s) {depth depth' : Nat} (enough : k < depth)
    (enough' : k < depth') :
    Concurs (fillWith l depth ⟨s, types⟩) (fillWith l depth' ⟨s, types⟩) := by
  induction ends generalizing depth depth' with
  | here _ stops =>
    obtain ⟨depth, rfl⟩ := Nat.exists_eq_succ_of_ne_zero (Nat.ne_of_gt enough)
    obtain ⟨depth', rfl⟩ := Nat.exists_eq_succ_of_ne_zero (Nat.ne_of_gt enough')
    refine (concurs_fill l _ fun content again => ?_).behind (present _)
    exact absurd again (Shape.inner?_eq_none_iff.mp stops content)
  | @step a b k _ goes _ ih =>
    obtain ⟨depth, rfl⟩ := Nat.exists_eq_succ_of_ne_zero (by omega : depth ≠ 0)
    obtain ⟨depth', rfl⟩ := Nat.exists_eq_succ_of_ne_zero (by omega : depth' ≠ 0)
    refine (concurs_fill l _ fun content again => ?_).behind (present _)
    obtain rfl : _ = content :=
      absent.inj ((Shape.inner?_eq_some_iff.mp goes).symm.trans again)
    exact ih (by omega) (by omega)

/-- If filling never comes to an end, it fails at any depth. -/
theorem fillWith_of_endless (nonnull : l ≠ .null)
    (closed : ∀ a ∈ places, ∀ b, Shape.inner? types a = some b → b ∈ places) {s : Shape}
    (mem : s ∈ places) (endless : ∀ k, ¬ EndsWithin (Shape.inner? types) places k s)
    (depth : Nat) : (fillWith l depth ⟨s, types⟩).1 = .error (.unsupported .null) := by
  induction depth generalizing s with
  | zero => rfl
  | succ depth ih =>
    cases goes : s.inner? types with
    | none => exact absurd (.here mem goes) (endless 0)
    | some inner =>
      have next := ih (closed s mem inner goes) fun k ends => endless (k + 1) (.step mem goes ends)
      exact (assignWith_absent nonnull (Shape.inner?_eq_some_iff.mp goes)).trans next

/-- What is left of the depth after one filling is as good as the depth that what was filled in
would be given by itself. -/
theorem concurs_rest (nonnull : l ≠ .null) {s inner : Shape}
    (goes : s.inner? types = some inner) {depth : Nat}
    (is : (Content.mk s types).fillDepth = depth + 1) :
    Concurs (fillWith l depth ⟨inner, types⟩)
      (fillWith l (Content.mk inner types).fillDepth ⟨inner, types⟩) := by
  have start : ∀ s : Shape, s ∈ Shape.fillable types s := fun s => List.mem_cons_self
  by_cases ending : ∃ k, EndsWithin (Shape.inner? types) (Shape.fillable types inner) k inner
  · obtain ⟨k, ends⟩ := ending
    have near := ends.lt_length
    have far := (EndsWithin.step (start s) goes
      (ends.among (Shape.inner?_closed s) (Shape.inner?_closed s _ (start s) _ goes))).lt_length
    have bound := Shape.length_fillable_le types s
    have bound' := Shape.length_fillable_le types inner
    exact concurs_fillWith_of_ends ends (by omega) (by omega)
  · have endless := fun depth => fillWith_of_endless nonnull (Shape.inner?_closed inner)
      (start inner) (fun k ends => ending ⟨k, ends⟩) depth
    exact concurs_of_error (endless _) (endless _)

end depth

/-- Filling an absent value is assigning to the zero value of what it may hold. -/
theorem concurs_absent {l : Literal} (nonnull : l ≠ .null) (content : Content) :
    Concurs ((absent content).set l)
      ((content.zero.set l).1, present content (content.zero.set l).2) := by
  obtain ⟨s, types⟩ := content
  obtain ⟨depth, is⟩ : ∃ depth, (Content.mk s types).fillDepth = depth + 1 := by
    have bound := Shape.length_fillable_le types s
    refine Nat.exists_eq_succ_of_ne_zero ?_
    simp only [Shape.fillable, List.length_cons] at bound
    omega
  rw [set, assignWith, if_neg nonnull, is, fillWith]
  refine (concurs_fill l _ fun content again => ?_).behind (present _)
  obtain ⟨same, -⟩ := Shape.absent_of_zero again
  obtain ⟨inner, types'⟩ := content
  obtain rfl : types' = types := same
  exact concurs_rest nonnull (Shape.inner?_eq_some_iff.mpr again) is

end Value

end RecordRules

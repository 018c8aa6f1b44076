import RecordRules.Proofs.Engine.Inspection
import RecordRules.Proofs.Table

/-!
# Recording failures

A failure of a nested structure carries the failures of its fields.  Recording it puts
those at paths below its own, which is what recording them one by one at such paths does:
joining paths is associative, and what has been joined can be told apart again.
-/

namespace RecordRules

/-! ## Joined paths -/

/-- What stands between two paths that are joined. -/
def separator (rest : String) : String :=
  if rest.toList.head? = some '[' then "" else "."

@[simp] theorem joinPath_empty_left (rest : String) : joinPath "" rest = rest := rfl

@[simp] theorem joinPath_empty_right (path : String) : joinPath path "" = path := by
  by_cases empty : path = ""
  · rw [empty, joinPath_empty_left]
  · have nonempty : ¬ path.isEmpty := fun is => empty (String.isEmpty_iff.mp is)
    rw [joinPath, if_neg nonempty, if_pos (String.isEmpty_iff.mpr rfl)]

theorem joinPath_of_ne {path rest : String} (path_ne : path ≠ "") (rest_ne : rest ≠ "") :
    joinPath path rest = path ++ (separator rest ++ rest) := by
  have nonempty : ¬ path.isEmpty := fun is => path_ne (String.isEmpty_iff.mp is)
  have nonempty' : ¬ rest.isEmpty := fun is => rest_ne (String.isEmpty_iff.mp is)
  rw [joinPath, if_neg nonempty, if_neg nonempty', separator]
  split
  · rw [String.empty_append]
  · rw [String.append_assoc]

theorem separator_append {path : String} (ne : path ≠ "") (rest : String) :
    separator (path ++ rest) = separator path := by
  rw [separator, separator, String.toList_append, List.head?_append_of_ne_nil]
  exact fun nil => ne (String.toList_eq_nil_iff.mp nil)

theorem append_ne_empty {a : String} (ne : a ≠ "") (b : String) : a ++ b ≠ "" := by
  intro empty
  rw [String.append_eq_empty_iff] at empty
  exact ne empty.1

theorem joinPath_assoc (a b c : String) :
    joinPath (joinPath a b) c = joinPath a (joinPath b c) := by
  by_cases a_ne : a = ""
  · rw [a_ne, joinPath_empty_left, joinPath_empty_left]
  by_cases b_ne : b = ""
  · rw [b_ne, joinPath_empty_right, joinPath_empty_left]
  by_cases c_ne : c = ""
  · rw [c_ne, joinPath_empty_right, joinPath_empty_right]
  rw [joinPath_of_ne a_ne b_ne, joinPath_of_ne b_ne c_ne,
    joinPath_of_ne (append_ne_empty a_ne _) c_ne, joinPath_of_ne a_ne (append_ne_empty b_ne _),
    separator_append b_ne]
  simp only [String.append_assoc]

theorem separator_injective {b c : String} (same : separator b ++ b = separator c ++ c) :
    b = c := by
  have chars := congrArg String.toList same
  rw [String.toList_append, String.toList_append, separator, separator] at chars
  apply String.toList_inj.mp
  split at chars
  · next index =>
    split at chars
    · exact chars
    · have head := congrArg List.head? chars
      change b.toList.head? = some '.' at head
      rw [index] at head
      cases head
  · split at chars
    · next index =>
      have head := congrArg List.head? chars
      change some '.' = c.toList.head? at head
      rw [index] at head
      cases head
    · exact (List.cons.inj chars).2

/-- Below one path, different paths stay different. -/
theorem joinPath_injective (path : String) : Function.Injective (joinPath path) := by
  intro b c same
  by_cases path_ne : path = ""
  · rwa [path_ne, joinPath_empty_left, joinPath_empty_left] at same
  have longer : ∀ {rest : String}, rest ≠ "" → path ≠ path ++ (separator rest ++ rest) := by
    intro rest ne eq
    have length := congrArg String.length eq
    have positive : 0 < rest.length := by
      rw [Nat.pos_iff_ne_zero]
      exact fun zero => ne (String.length_eq_zero_iff.mp zero)
    simp only [String.length_append] at length
    omega
  by_cases b_ne : b = ""
  · by_cases c_ne : c = ""
    · rw [b_ne, c_ne]
    · rw [b_ne, joinPath_empty_right, joinPath_of_ne path_ne c_ne] at same
      exact absurd same (longer c_ne)
  · by_cases c_ne : c = ""
    · rw [c_ne, joinPath_empty_right, joinPath_of_ne path_ne b_ne] at same
      exact absurd same.symm (longer b_ne)
    · rw [joinPath_of_ne path_ne b_ne, joinPath_of_ne path_ne c_ne] at same
      exact separator_injective (String.append_right_inj _ |>.mp same)

/-! ## Recording in sequence -/

namespace Failures

/-- Records failures one after the other. -/
def recordAll (fs : Failures) (recorded : List (String × Failure)) : Failures :=
  recorded.foldl (fun fs entry => fs.record entry.1 entry.2) fs

/-- The failures that are put into the table for one that is recorded. -/
def single (entry : String × Failure) : List (String × Failure) :=
  match entry.2.fields with
  | some nested => nested.map fun inner => (joinPath entry.1 inner.1, inner.2)
  | none => [entry]

/-- Failures moved to places below another one. -/
def moved (path : String) (recorded : List (String × Failure)) : List (String × Failure) :=
  recorded.map fun entry => (joinPath path entry.1, entry.2)

theorem recordAll_append (fs : Failures) (recorded recorded' : List (String × Failure)) :
    fs.recordAll (recorded ++ recorded') = (fs.recordAll recorded).recordAll recorded' :=
  List.foldl_append

theorem moved_append (path : String) (recorded recorded' : List (String × Failure)) :
    moved path (recorded ++ recorded') = moved path recorded ++ moved path recorded' :=
  List.map_append

theorem record_eq_insertAll (fs : Failures) (entry : String × Failure) :
    fs.record entry.1 entry.2 = fs.insertAll (single entry) := by
  rw [record, single]
  cases entry.2.fields with
  | some nested => rw [Table.insertAll, List.foldl_map]
  | none => rfl

theorem recordAll_eq_insertAll (fs : Failures) (recorded : List (String × Failure)) :
    fs.recordAll recorded = fs.insertAll (recorded.flatMap single) := by
  induction recorded generalizing fs with
  | nil => rfl
  | cons entry rest ih =>
    have later := ih (fs.insertAll (single entry))
    rw [recordAll, List.foldl_cons, record_eq_insertAll]
    apply later.trans
    rw [List.flatMap_cons, Table.insertAll, Table.insertAll, Table.insertAll, List.foldl_append]

theorem collect_eq_insertAll (recorded : List (String × Failure)) :
    collect recorded = Table.empty.insertAll (recorded.flatMap single) :=
  recordAll_eq_insertAll Table.empty recorded

theorem single_moved (path : String) (entry : String × Failure) :
    single (joinPath path entry.1, entry.2) = moved path (single entry) := by
  rw [single, single]
  cases entry.2.fields with
  | some nested =>
    dsimp only
    rw [moved, List.map_map]
    refine List.map_congr_left fun inner _ => ?_
    rw [joinPath_assoc]
    rfl
  | none => rfl

theorem flatMap_single_moved (path : String) (recorded : List (String × Failure)) :
    (moved path recorded).flatMap single = moved path (recorded.flatMap single) := by
  induction recorded with
  | nil => rfl
  | cons entry rest ih =>
    rw [moved, List.map_cons, List.flatMap_cons, List.flatMap_cons, single_moved, moved_append]
    rw [moved] at ih
    rw [ih]

/-- Recording the failure of a structure records the failures of its fields below it. -/
theorem record_nested (fs : Failures) (path : String) (recorded : List (String × Failure)) :
    fs.record path (.nested (collect recorded)) = fs.recordAll (moved path recorded) := by
  have through := Table.insertAll_through (joinPath_injective path) fs (recorded.flatMap single)
  rw [← collect_eq_insertAll] at through
  calc fs.record path (.nested (collect recorded))
      = fs.insertAll (moved path (collect recorded).entries) :=
        record_eq_insertAll fs (path, .nested (collect recorded))
    _ = fs.insertAll (moved path (recorded.flatMap single)) := through
    _ = fs.recordAll (moved path recorded) := by
      rw [recordAll_eq_insertAll, flatMap_single_moved]

/-! ## What is recorded somewhere -/

/-- The failure is recorded at some path, whether or not it carries others. -/
def Solid (e : Failure) : Prop :=
  e.fields ≠ some []

instance (e : Failure) : Decidable (Solid e) :=
  decidable_of_iff (e.fields.map List.isEmpty ≠ some true) (by simp [Solid])

theorem solid_of_none {e : Failure} (plain : e.fields = none) : Solid e := by
  rw [Solid, plain]
  simp

theorem solid_nested {fs : Failures} (some : fs.size ≠ 0) : Solid (.nested fs) := by
  intro empty
  have nil : fs.entries = [] := Option.some.inj empty
  rw [Table.size, nil] at some
  exact some rfl

/-- A failure inside another value is recorded if it was. -/
theorem solid_inside {e : Failure} (solid : Solid e) (label segment : String) :
    Solid (e.inside label segment) := by
  rw [Solid] at solid ⊢
  rw [Failure.inside]
  cases fields : e.fields with
  | none => simp
  | some nested =>
    rw [fields] at solid
    cases nested with
    | nil => exact absurd rfl solid
    | cons first rest =>
      have some : (Failures.under segment (first :: rest)).size ≠ 0 :=
        Table.size_insertAll _ (List.cons_ne_nil _ _)
      exact solid_nested some

/-- Nothing is left behind by failures that carry an empty collection, and by no others. -/
theorem size_collect_eq_zero_iff {recorded : List (String × Failure)} :
    (collect recorded).size = 0 ↔ ∀ entry ∈ recorded, ¬ Solid entry.2 := by
  have puts_nothing : ∀ entry : String × Failure, single entry = [] ↔ ¬ Solid entry.2 := by
    intro entry
    rw [Solid, not_not, single]
    cases entry.2.fields with
    | none => simp
    | some nested => simp
  have nothing : (collect recorded).size = 0 ↔ recorded.flatMap single = [] := by
    rw [collect_eq_insertAll]
    constructor
    · intro zero
      by_contra some
      exact Table.size_insertAll _ some zero
    · intro nil
      rw [nil]
      rfl
  rw [nothing, List.flatMap_eq_nil_iff]
  exact forall₂_congr fun entry _ => puts_nothing entry

/-- What is solid leaves something behind. -/
theorem size_collect {recorded : List (String × Failure)} (some : recorded ≠ [])
    (solid : ∀ entry ∈ recorded, Solid entry.2) : (collect recorded).size ≠ 0 := by
  rcases List.exists_cons_of_ne_nil some with ⟨entry, rest, rfl⟩
  intro zero
  exact size_collect_eq_zero_iff.mp zero entry List.mem_cons_self
    (solid entry List.mem_cons_self)

/-! ## Recordings that come to the same -/

/-- What is recorded at absolute places comes to the same as what is recorded relative to a
path. -/
structure Traces (path : String) (recorded relative : List (String × Failure)) : Prop where
  nil_iff : recorded = [] ↔ relative = []
  solid : ∀ entry ∈ relative, Solid entry.2
  same : ∀ fs : Failures, fs.recordAll recorded = fs.recordAll (moved path relative)

theorem traces_nil (path : String) : Traces path [] [] where
  nil_iff := Iff.rfl
  solid _ mem := by cases mem
  same _ := rfl

theorem traces_append {path : String}
    {recorded recorded' relative relative' : List (String × Failure)}
    (first : Traces path recorded relative) (second : Traces path recorded' relative') :
    Traces path (recorded ++ recorded') (relative ++ relative') where
  nil_iff := by rw [List.append_eq_nil_iff, List.append_eq_nil_iff, first.nil_iff, second.nil_iff]
  solid entry mem := by
    rcases List.mem_append.mp mem with mem | mem
    · exact first.solid entry mem
    · exact second.solid entry mem
  same fs := by
    rw [moved_append, recordAll_append, recordAll_append, first.same, second.same]

theorem traces_single (path place : String) {e : Failure} (solid : Solid e) :
    Traces path [(joinPath path place, e)] [(place, e)] where
  nil_iff := by simp
  solid entry mem := by
    cases List.mem_singleton.mp mem
    exact solid
  same _ := rfl

/-- A nested structure may be validated on its own and its failures recorded as one. -/
theorem traces_nested {path place : String} {recorded relative : List (String × Failure)}
    (traces : Traces (joinPath path place) recorded relative) (some : relative ≠ []) :
    Traces path recorded [(place, .nested (collect relative))] where
  nil_iff := by simpa [traces.nil_iff] using some
  solid entry mem := by
    cases List.mem_singleton.mp mem
    exact solid_nested (size_collect some traces.solid)
  same fs := by
    rw [traces.same, ← record_nested]
    rfl

/-- Places relative to nothing are absolute. -/
theorem collect_eq_of_traces {recorded relative : List (String × Failure)}
    (traces : Traces "" recorded relative) : collect recorded = collect relative := by
  have stays : moved "" relative = relative := List.map_id relative
  have same := traces.same {}
  rwa [stays] at same

end Failures

end RecordRules

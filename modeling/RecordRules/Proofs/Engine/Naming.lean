import RecordRules.Proofs.Engine.Touring
import RecordRules.Proofs.Engine.Walking
import RecordRules.Proofs.Number.Digits
import RecordRules.Proofs.Value.Filling
import RecordRules.Proofs.Value.Locating

/-!
# Names of places

A place is shown under a name: the names of the fields on the way, with a dot between them,
and the indices in brackets.  Pointers on the way do not show.  If the fields of every
structure can be told apart by names without dots and brackets, a name is read in one way
only, and no two stops of a walk have the same name, except that a structure goes by the
name of the field that it is in.

It does not take the steps to see this.  Everything below a place is shown under its name,
and what follows the name starts with a dot or a bracket; so two fields, or two elements,
already part at the first of these.
-/

namespace RecordRules

/-! ## Reading names -/

/-- A run of characters is known from what comes after it, if that does not go on with it. -/
theorem eq_of_delimited {p : Char → Bool} {run run' rest rest' : List Char}
    (goes : ∀ c ∈ run, p c) (goes' : ∀ c ∈ run', p c) (ends : ∀ c ∈ rest.head?, p c = false)
    (ends' : ∀ c ∈ rest'.head?, p c = false) (same : run ++ rest = run' ++ rest') : run = run' := by
  have taken : ∀ {rest : List Char}, (∀ c ∈ rest.head?, p c = false) → rest.takeWhile p = [] := by
    intro rest ends
    cases rest with
    | nil => rfl
    | cons c rest => exact List.takeWhile_cons_of_neg (by simp [ends c rfl])
  have runs := congrArg (List.takeWhile p) same
  rwa [List.takeWhile_append_of_pos goes, List.takeWhile_append_of_pos goes', taken ends,
    taken ends', List.append_nil, List.append_nil] at runs

/-- The marks that names are read by. -/
def isPathMark (c : Char) : Bool :=
  c = '.' || c = '['

/-- A name of a field in which no marks occur. -/
structure CleanSegment (segment : String) : Prop where
  nonempty : segment ≠ ""
  unmarked : ∀ c ∈ segment.toList, isPathMark c = false

-- A quantifier over the characters of a list would be decided by going through all characters.
instance (segment : String) : Decidable (CleanSegment segment) :=
  decidable_of_iff (segment ≠ "" ∧ segment.toList.any isPathMark = false)
    ⟨fun clean => ⟨clean.1, fun c mem => by simpa using List.any_eq_false.mp clean.2 c mem⟩,
      fun clean => ⟨clean.nonempty, List.any_eq_false.mpr fun c mem => by
        simp [clean.unmarked c mem]⟩⟩

/-- What follows a name starts with a mark, if anything follows. -/
def Continues (rest : String) : Prop :=
  ∀ c ∈ rest.toList.head?, isPathMark c = true

theorem continues_append {first : String} (continues : Continues first) (nonempty : first ≠ "")
    (rest : String) : Continues (first ++ rest) := by
  intro c mem
  rw [String.toList_append] at mem
  cases chars : first.toList with
  | nil => exact absurd (String.toList_eq_nil_iff.mp chars) nonempty
  | cons d ds =>
    rw [chars] at mem
    refine continues c ?_
    rw [chars]
    exact mem

theorem continues_dot (rest : String) : Continues ("." ++ rest) := by
  intro c mem
  rw [String.toList_append] at mem
  cases mem
  rfl

theorem continues_bracket (rest : String) : Continues ("[" ++ rest) := by
  intro c mem
  rw [String.toList_append] at mem
  cases mem
  rfl

/-- Different clean names stay different, whatever follows them. -/
theorem segment_eq {segment segment' rest rest' : String} (clean : CleanSegment segment)
    (clean' : CleanSegment segment') (continues : Continues rest) (continues' : Continues rest')
    (same : segment ++ rest = segment' ++ rest') : segment = segment' := by
  have chars := congrArg String.toList same
  rw [String.toList_append, String.toList_append] at chars
  refine String.toList_inj.mp (eq_of_delimited (p := fun c => !isPathMark c) ?_ ?_ ?_ ?_ chars)
  · exact fun c mem => by simp [clean.unmarked c mem]
  · exact fun c mem => by simp [clean'.unmarked c mem]
  · exact fun c mem => by simp [continues c mem]
  · exact fun c mem => by simp [continues' c mem]

theorem below_eq (path segment : String) :
    below path segment = path ++ (if path.isEmpty then segment else "." ++ segment) := by
  rw [below]
  by_cases empty : path.isEmpty
  · rw [if_pos empty, if_pos empty, String.isEmpty_iff.mp empty, String.empty_append]
  · rw [if_neg empty, if_neg empty, String.append_assoc]

/-- Fields of one structure with the same name are the same. -/
theorem segment_eq_of_below {path segment segment' rest rest' : String}
    (clean : CleanSegment segment) (clean' : CleanSegment segment') (continues : Continues rest)
    (continues' : Continues rest')
    (same : below path segment ++ rest = below path segment' ++ rest') : segment = segment' := by
  rw [below_eq, below_eq, String.append_assoc, String.append_assoc] at same
  have tails := (String.append_right_inj path).mp same
  split at tails
  · exact segment_eq clean clean' continues continues' tails
  · rw [String.append_assoc, String.append_assoc] at tails
    exact segment_eq clean clean' continues continues' ((String.append_right_inj ".").mp tails)

/-- Elements of one sequence with the same name are the same. -/
theorem index_eq {path rest rest' : String} {index index' : Nat}
    (same : path ++ "[" ++ toString index ++ "]" ++ rest =
      path ++ "[" ++ toString index' ++ "]" ++ rest') : index = index' := by
  simp only [String.append_assoc] at same
  have tails := (String.append_right_inj "[").mp ((String.append_right_inj path).mp same)
  have chars := congrArg String.toList tails
  rw [String.toList_append, String.toList_append, String.toList_append,
    String.toList_append] at chars
  have digits : ∀ {n : Nat}, ∀ c ∈ (toString n).toList, c.isDigit = true := by
    intro n c mem
    exact isDigit_of_mem_decimal (n := n) (by rwa [Nat.toString_eq_repr, Nat.toList_repr] at mem)
  have closes : ∀ {rest : List Char}, ∀ c ∈ ("]".toList ++ rest).head?, c.isDigit = false := by
    intro rest c mem
    cases mem
    rfl
  have texts := eq_of_delimited digits digits closes closes chars
  rw [Nat.toString_eq_repr, Nat.toString_eq_repr, Nat.toList_repr, Nat.toList_repr] at texts
  have numbers := congrArg readNatural texts
  rw [readNatural_toDigits, readNatural_toDigits] at numbers
  exact Option.some.inj numbers

/-! ## Stops -/

/-- The place that a path leads to, pointers not counted that lead to what is there. -/
def FieldPath.place (path : FieldPath) : List Step :=
  path.newestFirst.dropWhile (· = .deref)

theorem place_pushDeref (path : FieldPath) : path.pushDeref.place = path.place :=
  List.dropWhile_cons_of_pos (by simp)

namespace Stop

/-- The stop is at a name, or somewhere inside what goes by that name. -/
def Under (name : String) (stop : Stop) : Prop :=
  ∃ rest, stop.path.name = name ++ rest ∧ Continues rest

/-- If two stops have the same name, then they are at the same place, and one of them is only
there because of the structure in the field. -/
def Distinct (a b : Stop) : Prop :=
  a.path.name = b.path.name → a.path.place = b.path.place ∧ (a.field = none ∨ b.field = none)

theorem distinct_of_ne {a b : Stop} (ne : a.path.name ≠ b.path.name) : a.Distinct b :=
  fun same => absurd same ne

variable {path : FieldPath} {stop : Stop}

theorem under_self (path : FieldPath) (field : Option FieldInfo) :
    Under path.name ⟨path, field⟩ :=
  ⟨"", String.append_empty.symm, fun _ mem => by cases mem⟩

/-- What is under a longer name is under the shorter one, if a mark comes next. -/
theorem Under.of_append {name more : String} (nonempty : more ≠ "") (continues : Continues more)
    (under : stop.Under (name ++ more)) : stop.Under name := by
  obtain ⟨rest, named, -⟩ := under
  refine ⟨more ++ rest, ?_, continues_append continues nonempty rest⟩
  rw [named, String.append_assoc]

/-- What is under a longer name does not have the shorter one. -/
theorem Under.name_ne {name more : String} (nonempty : more ≠ "")
    (under : stop.Under (name ++ more)) : stop.path.name ≠ name := by
  obtain ⟨rest, named, -⟩ := under
  intro same
  have length := congrArg String.length (named.symm.trans same)
  have some : 0 < more.length := by
    rw [Nat.pos_iff_ne_zero]
    exact fun zero => nonempty (String.length_eq_zero_iff.mp zero)
  simp only [String.length_append] at length
  omega

theorem under_of_field {segment : String} (named : path.name ≠ "")
    (under : stop.Under (below path.name segment)) : stop.Under path.name := by
  have nonempty : ¬ path.name.isEmpty := by simpa using named
  rw [below_eq, if_neg nonempty] at under
  exact under.of_append (append_ne_empty (by decide) segment) (continues_dot segment)

theorem name_ne_of_field {segment : String} (clean : CleanSegment segment)
    (under : stop.Under (below path.name segment)) : stop.path.name ≠ path.name := by
  rw [below_eq] at under
  refine under.name_ne ?_
  split
  · exact clean.nonempty
  · exact append_ne_empty (by decide) segment

theorem under_of_item {index : Nat} (under : stop.Under (path.pushIndex index).name) :
    stop.Under path.name := by
  rw [pushIndex_name, String.append_assoc, String.append_assoc] at under
  exact under.of_append (append_ne_empty (by decide) _) (continues_bracket _)

theorem name_ne_of_item {index : Nat} (under : stop.Under (path.pushIndex index).name) :
    stop.path.name ≠ path.name := by
  rw [pushIndex_name, String.append_assoc, String.append_assoc] at under
  exact under.name_ne (append_ne_empty (by decide) _)

/-- Two fields of one structure part for good. -/
theorem distinct_of_fields {a b : Stop} {segment segment' : String} (clean : CleanSegment segment)
    (clean' : CleanSegment segment') (ne : segment ≠ segment')
    (under : a.Under (below path.name segment)) (under' : b.Under (below path.name segment')) :
    a.Distinct b := by
  obtain ⟨rest, named, continues⟩ := under
  obtain ⟨rest', named', continues'⟩ := under'
  refine distinct_of_ne fun same => ne ?_
  rw [named, named'] at same
  exact segment_eq_of_below clean clean' continues continues' same

/-- Two elements of one sequence part for good. -/
theorem distinct_of_items {a b : Stop} {index index' : Nat} (ne : index ≠ index')
    (under : a.Under (path.pushIndex index).name) (under' : b.Under (path.pushIndex index').name) :
    a.Distinct b := by
  obtain ⟨rest, named, -⟩ := under
  obtain ⟨rest', named', -⟩ := under'
  refine distinct_of_ne fun same => ne ?_
  rw [named, named', pushIndex_name, pushIndex_name] at same
  exact index_eq same

end Stop

/-! ## Logs -/

/-- What is written down of a walk through what is at a path. -/
structure Told (path : FieldPath) (stops : List Stop) : Prop where
  under : path.name ≠ "" → ∀ stop ∈ stops, stop.Under path.name
  /-- Only a structure goes by the name of the path itself. -/
  own : ∀ stop ∈ stops, stop.path.name = path.name →
    stop.path.place = path.place ∧ stop.field = none
  distinct : stops.Pairwise Stop.Distinct

theorem told_nil (path : FieldPath) : Told path [] where
  under _ := List.forall_mem_nil _
  own := List.forall_mem_nil _
  distinct := .nil

theorem told_deref {path : FieldPath} {stops : List Stop} (told : Told path.pushDeref stops) :
    Told path stops where
  under := pushDeref_name path ▸ told.under
  own := by
    have own := told.own
    rwa [pushDeref_name, place_pushDeref] at own
  distinct := told.distinct

/-- The fields of a structure type that walks attend to are shown under clean names, and no two
under the same. -/
structure RecordType.Distinguishes (config : Config) (type : RecordType) : Prop where
  clean : ∀ info ∈ type.fields, info.exported → CleanSegment (Walk.segment config info)
  nodup : ((type.fields.filter (·.exported)).map (Walk.segment config)).Nodup

instance (config : Config) (type : RecordType) : Decidable (type.Distinguishes config) :=
  decidable_of_iff
    ((∀ info ∈ type.fields, info.exported → CleanSegment (Walk.segment config info)) ∧
      ((type.fields.filter (·.exported)).map (Walk.segment config)).Nodup)
    ⟨fun distinguishes => ⟨distinguishes.1, distinguishes.2⟩,
      fun distinguishes => ⟨distinguishes.clean, distinguishes.nodup⟩⟩

/-- What is written down of a walk through some fields of the structure at a path. -/
structure ToldFields (config : Config) (path : FieldPath) (infos : List FieldInfo)
    (stops : List Stop) : Prop where
  under : ∀ stop ∈ stops, ∃ info ∈ infos, info.exported ∧
    stop.Under (below path.name (Walk.segment config info))
  distinct : stops.Pairwise Stop.Distinct

/-- What is written down of a walk through some elements of the sequence at a path. -/
structure ToldItems (path : FieldPath) (indices : List Nat) (stops : List Stop) : Prop where
  under : ∀ stop ∈ stops, ∃ index ∈ indices, stop.Under (path.pushIndex index).name
  distinct : stops.Pairwise Stop.Distinct

section logs

variable {config : Config} {path : FieldPath} {stops rest : List Stop}

/-- A stop at a field, and what is inside it. -/
theorem distinct_field {path : FieldPath} (told : Told path stops) (field : Option FieldInfo) :
    (⟨path, field⟩ :: stops).Pairwise Stop.Distinct := by
  refine List.pairwise_cons.mpr ⟨fun stop mem same => ?_, told.distinct⟩
  obtain ⟨place, none⟩ := told.own stop mem same.symm
  exact ⟨place.symm, .inr none⟩

theorem toldFields_nil (infos : List FieldInfo) : ToldFields config path infos [] where
  under := List.forall_mem_nil _
  distinct := .nil

theorem toldFields_skip {info : FieldInfo} {infos : List FieldInfo}
    (told : ToldFields config path infos rest) : ToldFields config path (info :: infos) rest where
  under stop mem := by
    obtain ⟨info, among, found⟩ := told.under stop mem
    exact ⟨info, List.mem_cons_of_mem _ among, found⟩
  distinct := told.distinct

theorem toldFields_cons {info : FieldInfo} {infos : List FieldInfo} {index : Nat}
    (clean : ∀ other ∈ info :: infos, other.exported → CleanSegment (Walk.segment config other))
    (nodup : (((info :: infos).filter (·.exported)).map (Walk.segment config)).Nodup)
    (exported : info.exported)
    (inside : Told (path.pushField index (Walk.segment config info)) stops)
    (told : ToldFields config path infos rest) :
    ToldFields config path (info :: infos)
      (⟨path.pushField index (Walk.segment config info), some info⟩ :: stops ++ rest) := by
  have first := clean info List.mem_cons_self exported
  have place : ∀ stop ∈ (⟨path.pushField index (Walk.segment config info), some info⟩ :: stops :
      List Stop), stop.Under (below path.name (Walk.segment config info)) := by
    have named : (path.pushField index (Walk.segment config info)).name ≠ "" := by
      rw [pushField_name]
      exact below_ne_empty path.name first.nonempty
    have under := inside.under named
    rw [← pushField_name path index]
    exact List.forall_mem_cons.mpr ⟨Stop.under_self _ _, under⟩
  refine ⟨fun stop mem => ?_, List.pairwise_append.mpr ⟨distinct_field inside _, told.distinct, ?_⟩⟩
  · rcases List.mem_append.mp mem with here | later
    · exact ⟨info, List.mem_cons_self, exported, place stop here⟩
    · obtain ⟨other, among, found⟩ := told.under stop later
      exact ⟨other, List.mem_cons_of_mem _ among, found⟩
  · intro a here b later
    obtain ⟨other, among, exported', under⟩ := told.under b later
    have second := clean other (List.mem_cons_of_mem _ among) exported'
    rw [List.filter_cons_of_pos exported, List.map_cons, List.nodup_cons] at nodup
    have ne : Walk.segment config info ≠ Walk.segment config other := by
      intro same
      refine nodup.1 (List.mem_map.mpr ⟨other, ?_, same.symm⟩)
      exact List.mem_filter.mpr ⟨among, exported'⟩
    exact Stop.distinct_of_fields first second ne (place a here) under

theorem toldItems_cons {index : Nat} {indices : List Nat} (fresh : index ∉ indices)
    (inside : Told (path.pushIndex index) stops) (told : ToldItems path indices rest) :
    ToldItems path (index :: indices) (stops ++ rest) := by
  have named : (path.pushIndex index).name ≠ "" := by
    rw [pushIndex_name, String.append_assoc, String.append_assoc]
    intro empty
    exact append_ne_empty (by decide) _ (String.append_eq_empty_iff.mp empty).2
  have under := inside.under named
  refine ⟨fun stop mem => ?_, List.pairwise_append.mpr ⟨inside.distinct, told.distinct, ?_⟩⟩
  · rcases List.mem_append.mp mem with here | later
    · exact ⟨index, List.mem_cons_self, under stop here⟩
    · obtain ⟨other, among, found⟩ := told.under stop later
      exact ⟨other, List.mem_cons_of_mem _ among, found⟩
  · intro a here b later
    obtain ⟨other, among, under'⟩ := told.under b later
    have ne : index ≠ other := by
      rintro rfl
      exact fresh among
    exact Stop.distinct_of_items ne (under a here) under'

/-- The fields of a structure, and the structure itself or not. -/
theorem told_of_fields {type : RecordType} (distinguishes : type.Distinguishes config)
    (told : ToldFields config path type.fields stops) : Told path stops where
  under named stop mem := by
    obtain ⟨info, -, -, under⟩ := told.under stop mem
    exact Stop.under_of_field named under
  own stop mem same := by
    obtain ⟨info, among, exported, under⟩ := told.under stop mem
    exact absurd same (Stop.name_ne_of_field (distinguishes.clean info among exported) under)
  distinct := told.distinct

theorem told_of_structure {type : RecordType} (distinguishes : type.Distinguishes config)
    (told : ToldFields config path type.fields stops) : Told path (stops ++ [⟨path, none⟩]) := by
  have inside := told_of_fields distinguishes told
  refine ⟨fun named stop mem => ?_, fun stop mem same => ?_, ?_⟩
  · rcases List.mem_append.mp mem with field | own
    · exact inside.under named stop field
    · cases List.mem_singleton.mp own
      exact Stop.under_self path none
  · rcases List.mem_append.mp mem with field | own
    · exact inside.own stop field same
    · cases List.mem_singleton.mp own
      exact ⟨rfl, rfl⟩
  · refine List.pairwise_append.mpr ⟨told.distinct, List.pairwise_singleton _ _, ?_⟩
    intro stop field own mem
    cases List.mem_singleton.mp mem
    obtain ⟨info, among, exported, under⟩ := told.under stop field
    exact Stop.distinct_of_ne
      (Stop.name_ne_of_field (distinguishes.clean info among exported) under)

theorem told_of_items {indices : List Nat} (told : ToldItems path indices stops) :
    Told path stops where
  under _ stop mem := by
    obtain ⟨index, -, under⟩ := told.under stop mem
    exact Stop.under_of_item under
  own stop mem same := by
    obtain ⟨index, -, under⟩ := told.under stop mem
    exact absurd same (Stop.name_ne_of_item under)
  distinct := told.distinct

end logs

end RecordRules

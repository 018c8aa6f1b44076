import Mathlib.Data.List.Forall2
import Mathlib.Data.List.Nodup
import RecordRules.Declaration.Basic
import RecordRules.Proofs.Except
import RecordRules.Proofs.Number.Digits

/-!
# Alignment of the tables of a description

The described fields are the declared ones that are not skipped, in the order of the declaration,
and each of them keeps the member that its position in the declaration gives it
(`describeFields_matches`).  A case of an accessor is found by the position among the described
fields, so all three tables of a structure type speak of the same member at every index
(`tables_aligned`).
-/

namespace RecordRules

/-! ## What is declared -/

/-- The attribute asks that its field be left out. -/
def Attribute.skips : Attribute → Bool
  | .flags names => "skip" ∈ names
  | _ => false

def FieldDeclaration.isSkipped (field : FieldDeclaration) : Bool :=
  field.attributes.any Attribute.skips

theorem toString_injective {m n : Nat} (same : toString m = toString n) : m = n := by
  have digits : Nat.toDigits 10 m = Nat.toDigits 10 n := by
    rw [← Nat.toList_repr, ← Nat.toList_repr]
    exact congrArg String.toList same
  have read := readNatural_toDigits m
  rw [digits, readNatural_toDigits] at read
  exact (Option.some.inj read).symm

namespace Declaration

/-- The fields that are not skipped, with their positions in the declaration. -/
def shown (d : Declaration) : List (FieldDeclaration × Nat) :=
  d.fields.zipIdx.filter fun place => !place.1.isSkipped

/-- The fields are what the shape asks for: they have names, which differ, or no names, or there are
none. -/
def WellNamed (d : Declaration) : Prop :=
  match d.shape with
  | .named => (∀ field ∈ d.fields, field.name ≠ none) ∧ (d.fields.map FieldDeclaration.name).Nodup
  | .tuple => ∀ field ∈ d.fields, field.name = none
  | .unit => d.fields = []
  | .enumeration | .union => True

theorem getElem?_memberNames (d : Declaration) (position : Nat) :
    d.memberNames[position]? = d.fields[position]?.map (·.member position) := by
  rw [memberNames, List.getElem?_map, List.getElem?_zipIdx, Option.map_map, Nat.zero_add]
  rfl

/-- Different positions of a well-named structure are different members. -/
theorem nodup_memberNames {d : Declaration} (well : d.WellNamed)
    (structural : isStructure d.shape = true) : d.memberNames.Nodup := by
  rw [WellNamed] at well
  cases shape : d.shape with
  | named =>
    rw [shape] at well
    obtain ⟨named, distinct⟩ := well
    have same : d.memberNames.map some = d.fields.map FieldDeclaration.name := by
      refine List.ext_getElem? fun position => ?_
      rw [List.getElem?_map, getElem?_memberNames, List.getElem?_map, Option.map_map]
      refine Option.map_congr fun field is => ?_
      obtain ⟨name, is_named⟩ :=
        Option.ne_none_iff_exists'.mp (named field (List.mem_of_getElem? is))
      rw [Function.comp_apply, FieldDeclaration.member, is_named, Option.getD_some]
    rw [← same] at distinct
    exact List.Nodup.of_map _ distinct
  | tuple =>
    rw [shape] at well
    have same : d.memberNames = (List.range d.fields.length).map toString := by
      refine List.ext_getElem? fun position => ?_
      rw [getElem?_memberNames, List.getElem?_map]
      cases is : d.fields[position]? with
      | none =>
        rw [List.getElem?_eq_none (by simpa using is)]
        rfl
      | some field =>
        have below := (List.getElem?_eq_some_iff.mp is).1
        rw [List.getElem?_range below, Option.map_some, Option.map_some, FieldDeclaration.member,
          well field (List.mem_of_getElem? is), Option.getD_none]
    rw [same]
    exact List.nodup_range.map fun m n => toString_injective
  | unit =>
    rw [shape] at well
    rw [memberNames, well]
    exact List.nodup_nil
  | enumeration => rw [shape] at structural; cases structural
  | union => rw [shape] at structural; cases structural

/-! ## What is described -/

/-- A field that shows is the one at a place of the declaration. -/
structure Matches (described : DescribedField) (place : FieldDeclaration × Nat) : Prop where
  member : described.member = place.1.member place.2
  tag : tagOf place.1.attributes = .ok described.info.tag
  info : described.info =
    { name := plainName described.member, tag := described.info.tag, exported := place.1.exported }

theorem skip_mem_flags_iff {attributes : List Attribute} {names : List String}
    (read : flags attributes = .ok names) :
    "skip" ∈ names ↔ attributes.any Attribute.skips = true := by
  induction attributes generalizing names with
  | nil =>
    cases read
    simp
  | cons first rest ih =>
    cases first with
    | flags names' =>
      obtain ⟨others, later, rfl⟩ := map_eq_ok_iff.mp read
      rw [List.mem_append, ih later, List.any_cons, Bool.or_eq_true, Attribute.skips,
        decide_eq_true_iff]
    | noFlags => cases read
    | tag argument => exact ih read
    | unrelated => exact ih read

theorem skip_mem_iff {field : FieldDeclaration} {allowed names : List String}
    (read : allowedFlags allowed field.attributes = .ok names) :
    "skip" ∈ names ↔ field.isSkipped = true := by
  rw [allowedFlags] at read
  obtain ⟨names', read, known⟩ := bind_eq_ok_iff.mp read
  split at known
  · cases known
  · cases known
    exact skip_mem_flags_iff read

/-- What is described from a position on are the fields that are not skipped, each at its place in
the declaration. -/
theorem describeFields_matches {position : Nat} {fields : List FieldDeclaration}
    {described : List DescribedField} (made : describeFields position fields = .ok described) :
    List.Forall₂ Matches described
      ((fields.zipIdx position).filter fun place => !place.1.isSkipped) := by
  induction fields generalizing position described with
  | nil =>
    cases made
    exact .nil
  | cons field fields ih =>
    rw [describeFields] at made
    obtain ⟨names, read, made⟩ := bind_eq_ok_iff.mp made
    rw [List.zipIdx_cons, List.filter_cons]
    split at made
    case isTrue skipped =>
      rw [(skip_mem_iff read).mp skipped]
      exact ih made
    case isFalse stays =>
      rw [skip_mem_iff read, Bool.not_eq_true] at stays
      obtain ⟨tag, annotated, made⟩ := bind_eq_ok_iff.mp made
      obtain ⟨others, later, same⟩ := bind_eq_ok_iff.mp made
      cases same
      rw [stays]
      exact .cons ⟨rfl, annotated, rfl⟩ (ih later)

/-- A described field stands at the index at which its declaration shows. -/
theorem exists_described {d : Declaration} {described : List DescribedField}
    (fields : List.Forall₂ Matches described d.shown) {index position : Nat}
    {field : FieldDeclaration} (shown : d.shown[index]? = some (field, position)) :
    d.fields[position]? = some field ∧
      ∃ description, described[index]? = some description ∧
        Matches description (field, position) := by
  obtain ⟨below, is⟩ := List.getElem?_eq_some_iff.mp shown
  have below' : index < described.length := fields.length_eq ▸ below
  refine ⟨?_, described[index], List.getElem?_eq_getElem below', ?_⟩
  · have mem := List.mem_of_mem_filter (List.mem_of_getElem? shown)
    exact List.mem_zipIdx_iff_getElem?.mp mem
  · rw [← is]
    exact fields.get below' below

theorem describe_matches {d : Declaration} {description : Description}
    (made : d.describe = .ok description) :
    isStructure d.shape = true ∧ List.Forall₂ Matches description.fields d.shown := by
  rw [describe] at made
  obtain ⟨names, -, made⟩ := bind_eq_ok_iff.mp made
  split at made
  case isTrue => cases made
  case isFalse structural =>
    obtain ⟨fields, described, made⟩ := bind_eq_ok_iff.mp made
    obtain ⟨bounded, -, same⟩ := bind_eq_ok_iff.mp made
    cases same
    exact ⟨by simpa using structural, describeFields_matches described⟩

end Declaration

/-! ## What is reached -/

section Members

variable {κ α : Type} [DecidableEq κ] {names : List κ} {values : List α} {position : Nat} {name : κ}

/-- What a name stands for is found where the name stands. -/
theorem find?_zip (distinct : names.Nodup) (at_ : names[position]? = some name) {value : α}
    (holds : values[position]? = some value) :
    (names.zip values).find? (fun held => held.1 = name) = some (name, value) := by
  induction names generalizing values position with
  | nil => cases at_
  | cons first names ih =>
    obtain ⟨other, distinct⟩ := List.nodup_cons.mp distinct
    cases values with
    | nil => cases holds
    | cons head values =>
      cases position with
      | zero =>
        cases at_
        cases holds
        rw [List.zip_cons_cons, List.find?_cons_of_pos (by simp)]
      | succ position =>
        have differs : first ≠ name := by
          rintro rfl
          exact other (List.mem_of_getElem? at_)
        rw [List.zip_cons_cons, List.find?_cons_of_neg (by simpa using differs)]
        exact ih distinct at_ holds

/-- What is put in for a name stands where the name stands. -/
theorem map_zip_eq_zip_set (distinct : names.Nodup) (at_ : names[position]? = some name)
    (value : α) :
    (names.zip values).map (fun held => if held.1 = name then (name, value) else held) =
      names.zip (values.set position value) := by
  induction names generalizing values position with
  | nil => cases at_
  | cons first names ih =>
    obtain ⟨other, distinct⟩ := List.nodup_cons.mp distinct
    cases values with
    | nil => rfl
    | cons head values =>
      cases position with
      | zero =>
        obtain rfl : first = name := Option.some.inj at_
        have kept : ∀ held ∈ names.zip values,
            (if held.1 = first then (first, value) else held) = id held := by
          rintro ⟨key, held⟩ mem
          rw [if_neg, id]
          rintro rfl
          exact other (List.of_mem_zip mem).1
        rw [List.zip_cons_cons, List.map_cons, if_pos rfl, List.map_congr_left kept, List.map_id,
          List.set_cons_zero, List.zip_cons_cons]
      | succ position =>
        have differs : first ≠ name := by
          rintro rfl
          exact other (List.mem_of_getElem? at_)
        rw [List.zip_cons_cons, List.map_cons, if_neg differs, ih distinct at_,
          List.set_cons_succ, List.zip_cons_cons]

end Members

namespace Description

/-- The first case for an index has the member that stands at the index. -/
theorem memberAt_eq (d : Description) (index : Nat) :
    d.memberAt index = d.fields[index]?.map DescribedField.member := by
  rw [memberAt, cases]
  cases at_ : d.fields[index]? with
  | none =>
    have above := List.getElem?_eq_none_iff.mp at_
    rw [Option.map_none, Option.map_eq_none_iff, List.find?_eq_none]
    rintro ⟨index', member⟩ mem
    have below := List.mem_range.mp (List.of_mem_zip mem).1
    simp only [decide_eq_true_eq]
    omega
  | some field =>
    have below := (List.getElem?_eq_some_iff.mp at_).1
    have member : (d.fields.map DescribedField.member)[index]? = some field.member := by
      rw [List.getElem?_map, at_, Option.map_some]
    rw [find?_zip List.nodup_range (List.getElem?_range below) member, Option.map_some,
      Option.map_some]

end Description

/-! ## The tables -/

/-- A number has no mark of a keyword. -/
theorem plainName_toString (position : Nat) :
    Declaration.plainName (toString position) = toString position := by
  have digits : ∀ c ∈ (toString position).toList, c.isDigit = true := fun c mem =>
    isDigit_of_mem_decimal (Nat.toList_repr ▸ mem)
  rw [Declaration.plainName]
  split
  case h_1 rest marked =>
    rw [marked] at digits
    exact absurd (digits 'r' List.mem_cons_self) (by decide)
  case h_2 => rfl

/-- The three tables of the description of a structure type have the same length, which is the
number of the fields that are not skipped.  At every index below it they speak of the same member:
that of the field at this index among those that are not skipped, whose position in the declaration
is `position`.  The first table has its name, its annotation and whether it is exported; the
accessor for reading gives what it holds; the one for changing gives that as well, and puts a new
value at this position and nowhere else.  Other indices have nothing in any table.  In a tuple, name
and member of the field are its position in the declaration. -/
theorem tables_aligned {d : Declaration} {description : Description} (well : d.WellNamed)
    (made : d.describe = .ok description) {α : Type} (values : List α)
    (whole : values.length = d.fields.length) :
    description.infos.length = d.shown.length ∧
    (∀ index field position, d.shown[index]? = some (field, position) →
      d.fields[position]? = some field ∧
      (∃ tag value, Declaration.tagOf field.attributes = .ok tag ∧
        values[position]? = some value ∧
        description.infos[index]? = some
          { name := Declaration.plainName (field.member position), tag,
            exported := field.exported } ∧
        description.read (d.holding values) index = some value ∧
        ∃ put, description.access (d.holding values) index = some (value, put) ∧
          ∀ new, put new = d.holding (values.set position new)) ∧
      (d.shape = .tuple → field.member position = toString position ∧
        Declaration.plainName (field.member position) = toString position)) ∧
    ∀ index, d.shown.length ≤ index →
      description.infos[index]? = none ∧ description.read (d.holding values) index = none ∧
        (description.access (d.holding values) index).isNone := by
  obtain ⟨structural, fields⟩ := Declaration.describe_matches made
  have distinct := Declaration.nodup_memberNames well structural
  refine ⟨(List.length_map _).trans fields.length_eq, fun index field position shown => ?_,
    fun index above => ?_⟩
  · obtain ⟨declared, described, is, same⟩ := Declaration.exists_described fields shown
    have at_ : d.memberNames[position]? = some described.member := by
      rw [Declaration.getElem?_memberNames, declared, same.member, Option.map_some]
    have below : position < values.length := whole ▸ (List.getElem?_eq_some_iff.mp declared).1
    have holds : values[position]? = some values[position] := List.getElem?_eq_getElem below
    have member : description.memberAt index = some described.member := by
      rw [Description.memberAt_eq, is, Option.map_some]
    have found := find?_zip distinct at_ holds
    refine ⟨declared, ⟨described.info.tag, values[position], same.tag, holds, ?_, ?_, ?_⟩,
      fun tuple => ?_⟩
    · rw [Description.infos, List.getElem?_map, is, Option.map_some, ← same.member, ← same.info]
    · rw [Description.read, member, Declaration.holding]
      simp only [Option.bind_eq_bind, Option.bind_some, found]
      rfl
    · refine ⟨fun new => d.holding (values.set position new), ?_, fun new => rfl⟩
      rw [Description.access, member, Declaration.holding]
      simp only [Option.bind_eq_bind, Option.bind_some, found, map_zip_eq_zip_set distinct at_]
      rfl
    · rw [Declaration.WellNamed, tuple] at well
      have positional : field.member position = toString position := by
        rw [FieldDeclaration.member, well field (List.mem_of_getElem? declared), Option.getD_none]
      rw [positional]
      exact ⟨rfl, plainName_toString position⟩
  · have beyond : description.fields[index]? = none :=
      List.getElem?_eq_none (fields.length_eq ▸ above)
    have member : description.memberAt index = none := by
      rw [Description.memberAt_eq, beyond, Option.map_none]
    refine ⟨?_, ?_, ?_⟩
    · rw [Description.infos, List.getElem?_map, beyond, Option.map_none]
    · rw [Description.read, member]
      rfl
    · rw [Description.access, member]
      rfl

/-- A tuple whose first member is skipped: the second one, which is not exported, comes first in the
tables, under its own position. -/
theorem tables_aligned_of_tuple :
    let d : Declaration := ⟨"P", .tuple, [], [],
      [⟨none, true, [.flags ["skip"]]⟩, ⟨none, false, []⟩, ⟨none, true, [.tag (.text "k:\"v\"")]⟩]⟩
    ∃ description, d.WellNamed ∧ d.describe = .ok description ∧
      description.infos[0]? = some { name := "1", tag := "", exported := false } ∧
      description.read (d.holding ["x", "y", "z"]) 0 = some "y" ∧
      description.read (d.holding ["x", "y", "z"]) 2 = none := by
  intro d
  have well : d.WellNamed := (by decide : ∀ field ∈ d.fields, field.name = none)
  obtain ⟨description, made⟩ : ∃ description, d.describe = .ok description := ⟨_, by rfl⟩
  obtain ⟨-, at_, beyond⟩ := tables_aligned well made ["x", "y", "z"] rfl
  obtain ⟨-, ⟨tag, value, annotated, holds, info, read, -⟩, -⟩ := at_ 0 ⟨none, false, []⟩ 1 rfl
  cases annotated
  cases holds
  exact ⟨description, well, made, info, read, (beyond 2 (by decide)).2.1⟩

end RecordRules

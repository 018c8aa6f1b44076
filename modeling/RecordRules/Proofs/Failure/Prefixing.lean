import Mathlib.Data.List.Nodup
import Mathlib.Data.Prod.Basic
import RecordRules.Proofs.Failure.Recording

/-!
# Failures below other places

Joining paths is associative, the empty path changes nothing, and below one path different paths
stay different.  So paths act on collections of failures: moving a collection below a path keeps
every failure, and moving it twice is moving it once below the joined path.

A failure that was found inside another value is moved in this way, however deep the values nest
(`Failure.insideAll_nested`).  Recording it is recording the failure as it was found at the joined
place.
-/

namespace RecordRules

namespace Table

variable {α : Type}

/-- Under other keys that can be told apart, a table has the entries that it had. -/
theorem perm_insertAll_map {f : String → String} (injective : Function.Injective f) (t : Table α) :
    (empty.insertAll (t.entries.map fun entry => (f entry.1, entry.2))).entries.Perm
      (t.entries.map fun entry => (f entry.1, entry.2)) := by
  have apart : Function.Injective fun entry : String × α => (f entry.1, entry.2) :=
    injective.prodMap Function.injective_id
  have nodup := (List.nodup_map_iff apart).mpr t.nodup_entries
  apply (List.perm_ext_iff_of_nodup (nodup_entries _) nodup).mpr
  rintro ⟨key, value⟩
  constructor
  · intro mem
    exact (mem_insertAll mem).resolve_left List.not_mem_nil
  · intro mem
    obtain ⟨⟨source, value⟩, is, same⟩ := List.mem_map.mp mem
    obtain ⟨rfl, rfl⟩ := Prod.mk.inj same
    rw [← get?_eq_some_iff, get?_insertAll_map injective, insertAll_entries,
      get?_eq_some_iff.mpr is, Option.some_or]

end Table

namespace Failures

theorem under_eq_insertAll (path : String) (fs : Failures) :
    under path fs.entries = Table.empty.insertAll (moved path fs.entries) :=
  rfl

theorem moved_moved (path path' : String) (recorded : List (String × Failure)) :
    moved path (moved path' recorded) = moved (joinPath path path') recorded := by
  rw [moved, moved, List.map_map]
  refine List.map_congr_left fun entry _ => ?_
  rw [joinPath_assoc]
  rfl

/-- No failure is lost below another place, and none is added. -/
theorem perm_under (path : String) (fs : Failures) :
    (under path fs.entries).entries.Perm (moved path fs.entries) :=
  Table.perm_insertAll_map (joinPath_injective path) fs

theorem size_under (path : String) (fs : Failures) : (under path fs.entries).size = fs.size := by
  rw [Table.size, (perm_under path fs).length_eq, moved, List.length_map, Table.size]

/-- Each failure is found at its place below the path. -/
theorem get?_under (path place : String) (fs : Failures) :
    (under path fs.entries).get? (joinPath path place) = fs.get? place := by
  have found := Table.get?_insertAll_map (joinPath_injective path) Table.empty fs.entries place
  rwa [Table.insertAll_entries, Table.get?_empty, Option.or_none] at found

theorem under_empty (fs : Failures) : under "" fs.entries = fs := by
  have stays : moved "" fs.entries = fs.entries := List.map_id fs.entries
  rw [under_eq_insertAll, stays, Table.insertAll_entries]

/-- Moving failures below two paths in turn is moving them below the joined path. -/
theorem under_under (path path' : String) (fs : Failures) :
    under path (under path' fs.entries).entries = under (joinPath path path') fs.entries := by
  rw [under_eq_insertAll, under_eq_insertAll, under_eq_insertAll, ← moved_moved]
  exact Table.insertAll_through (joinPath_injective path) Table.empty (moved path' fs.entries)

/-- Recording failures of fields at a path puts each of them at its place below. -/
theorem record_nested_eq_insertAll (fs : Failures) (path : String) (inner : Failures) :
    fs.record path (.nested inner) = fs.insertAll (moved path inner.entries) :=
  record_eq_insertAll fs (path, .nested inner)

/-- Failures may be moved before they are recorded. -/
theorem record_nested_under (fs : Failures) (path segment : String) (inner : Failures) :
    fs.record path (.nested (under segment inner.entries)) =
      fs.record (joinPath path segment) (.nested inner) := by
  rw [record_nested_eq_insertAll, record_nested_eq_insertAll, ← moved_moved]
  exact Table.insertAll_through (joinPath_injective path) fs (moved segment inner.entries)

end Failures

namespace Failure

open Failures (under)

/-- The failure carries these failures of fields, and its message lists them. -/
def Lists (e : Failure) (fs : Failures) : Prop :=
  e.fields = some fs.entries ∧ e.message = fs.text

/-- What carries failures of fields lists them once it has been found inside another value, whatever
its message was before. -/
theorem lists_inside (e : Failure) (fields : List (String × Failure)) (label segment : String) :
    ({ e with fields := some fields }.inside label segment).Lists (under segment fields) :=
  ⟨rfl, rfl⟩

/-- A failure found inside values one in another, the innermost first, each with the label and the
segment of the place in it. -/
def insideAll (e : Failure) (places : List (String × String)) : Failure :=
  places.foldl (fun e place => e.inside place.1 place.2) e

/-- The path to such a place from the outermost value. -/
def pathOf (places : List (String × String)) : String :=
  places.foldl (fun path place => joinPath place.2 path) ""

/-- The failure of a structure stays one, with its failures moved. -/
theorem inside_nested (fs : Failures) (label segment : String) :
    (nested fs).inside label segment = nested (under segment fs.entries) :=
  rfl

theorem insideAll_nested (fs : Failures) (places : List (String × String)) :
    (nested fs).insideAll places = nested (under (pathOf places) fs.entries) := by
  induction places using List.reverseRecOn with
  | nil => exact congrArg nested (Failures.under_empty fs).symm
  | append_singleton places place ih =>
    rw [insideAll] at ih
    rw [insideAll, pathOf, List.foldl_append, List.foldl_append, ih]
    exact congrArg nested (Failures.under_under place.2 (pathOf places) fs)

end Failure

open Failures Failure

/-- Paths act on collections of failures.

* Joining paths is associative, the empty path is neutral on either side, and joining to one path
  is injective.
* A collection keeps all its failures below another path, each at its place there.
* Moving a collection in turn below two paths is moving it below the joined one.
* A failure of a structure that was found inside values, however deep, is recorded as if it had
  been found at the joined place, and lists the failures that it carries there; so does, found
  inside a value, every failure that carries some. -/
theorem paths_act :
    (∀ p q r, joinPath p (joinPath q r) = joinPath (joinPath p q) r) ∧
    (∀ p, joinPath "" p = p ∧ joinPath p "" = p) ∧
    (∀ p, Function.Injective (joinPath p)) ∧
    (∀ (fs : Failures) (p : String),
      (under p fs.entries).size = fs.size ∧
      (under p fs.entries).entries.Perm
        (fs.entries.map fun entry => (joinPath p entry.1, entry.2)) ∧
      ∀ place, (under p fs.entries).get? (joinPath p place) = fs.get? place) ∧
    (∀ (fs : Failures) (p q : String),
      under p (under q fs.entries).entries = under (joinPath p q) fs.entries) ∧
    (∀ (fs found : Failures) (p label segment : String),
      fs.record p ((nested found).inside label segment) =
        fs.record (joinPath p segment) (nested found)) ∧
    (∀ (fs found : Failures) (p : String) (places : List (String × String)),
      fs.record p ((nested found).insideAll places) =
          fs.record (joinPath p (pathOf places)) (nested found) ∧
        ((nested found).insideAll places).Lists (under (pathOf places) found.entries)) ∧
    ∀ (e : Failure) (fields : List (String × Failure)) (label segment : String),
      ({ e with fields := some fields }.inside label segment).Lists (under segment fields) := by
  refine ⟨fun p q r => (joinPath_assoc p q r).symm, fun p => ⟨rfl, joinPath_empty_right p⟩,
    joinPath_injective, fun fs p => ⟨size_under p fs, perm_under p fs, fun place => ?_⟩,
    fun fs p q => under_under p q fs, fun fs found p label segment => ?_,
    fun fs found p places => ?_, lists_inside⟩
  · exact get?_under p place fs
  · rw [inside_nested, record_nested_under]
  · rw [insideAll_nested, record_nested_under]
    exact ⟨rfl, rfl, rfl⟩

/-- The failure of a field of the second element of a list, itself found in a map. -/
example :
    let found : Failures := .ofList [("name", { code := "required", message := "missing" })]
    let e := (Failure.nested found).insideAll [("index 1", "[1]"), ("value of key a", "[a]")]
    e.message = "[a][1].name: missing" ∧
      (({} : Failures).record "lists" e).keys = ["lists[a][1].name"] := by
  decide +kernel

end RecordRules

import Mathlib.Data.List.Induction
import RecordRules.Memo
import RecordRules.Table

/-!
# Looking things up

What tables and memos hold for a key after a change.  A table is determined by what it
holds for each key, so two ways to fill one come to the same if the last value for each
key is the same.
-/

namespace RecordRules

/-- Filtering by keys keeps the entries of the keys that are kept, and no others. -/
theorem find?_filter_fst {κ α : Type} [DecidableEq κ] (entries : List (κ × α)) (kept : κ → Bool)
    (key : κ) :
    ((entries.filter fun entry => kept entry.1).find? fun entry => entry.1 = key).map Prod.snd =
      if kept key then (entries.find? fun entry => entry.1 = key).map Prod.snd else none := by
  induction entries with
  | nil => simp
  | cons entry entries ih =>
    rw [List.filter_cons, List.find?_cons]
    by_cases same : entry.1 = key
    · subst same
      by_cases keeps : kept entry.1 = true
      · simp [keeps]
      · rw [if_neg keeps, if_neg keeps]
        rwa [if_neg keeps] at ih
    · rw [decide_eq_false same]
      split
      · rw [List.find?_cons, decide_eq_false same]
        exact ih
      · exact ih

namespace Table

variable {α : Type}

theorem find?_insertEntry (key : String) (value : α) (entries : List (String × α))
    (sought : String) :
    ((insertEntry key value entries).find? fun entry => entry.1 = sought).map Prod.snd =
      if key = sought then some value
      else (entries.find? fun entry => entry.1 = sought).map Prod.snd := by
  induction entries with
  | nil =>
    rw [insertEntry, List.find?_cons]
    by_cases same : key = sought
    · simp [same]
    · simp [same]
  | cons entry rest ih =>
    rw [insertEntry]
    by_cases lt : key < entry.1
    · rw [if_pos lt, List.find?_cons]
      by_cases same : key = sought
      · simp [same]
      · simp [same]
    · rw [if_neg lt]
      by_cases eq : key = entry.1
      · rw [if_pos eq, List.find?_cons, List.find?_cons]
        by_cases same : key = sought
        · simp [same]
        · have other : entry.1 ≠ sought := fun h => same (eq.trans h)
          simp [same, other]
      · rw [if_neg eq, List.find?_cons, List.find?_cons]
        by_cases found : entry.1 = sought
        · have other : key ≠ sought := fun h => eq (h.trans found.symm)
          simp [found, other]
        · simp only [found, decide_false]
          exact ih

/-- Inserting changes what is held for the key and for no other one. -/
@[simp] theorem get?_insert (t : Table α) (key : String) (value : α) (sought : String) :
    (t.insert key value).get? sought = if key = sought then some value else t.get? sought :=
  find?_insertEntry key value t.entries sought

theorem get?_erase (t : Table α) (key sought : String) :
    (t.erase key).get? sought = if key = sought then none else t.get? sought := by
  refine (find?_filter_fst t.entries (· ≠ key) sought).trans ?_
  by_cases same : key = sought
  · simp [same]
  · rw [if_neg same, if_pos (by simpa using Ne.symm same)]
    rfl

@[simp] theorem get?_empty (key : String) : (empty : Table α).get? key = none := rfl

theorem pairwise_keys (t : Table α) : t.entries.Pairwise fun a b => a.1 ≠ b.1 := by
  apply t.sorted.imp
  intro a b lt eq
  rw [eq] at lt
  exact String.lt_irrefl _ lt

theorem get?_eq_some_iff {t : Table α} {key : String} {value : α} :
    t.get? key = some value ↔ (key, value) ∈ t.entries := by
  rw [get?]
  constructor
  · intro found
    rcases Option.map_eq_some_iff.mp found with ⟨entry, first, rfl⟩
    have same : entry.1 = key := by simpa using List.find?_some first
    have member := List.mem_of_find?_eq_some first
    rwa [← same]
  · intro member
    have nodup := t.pairwise_keys
    generalize t.entries = entries at member nodup
    induction entries with
    | nil => cases member
    | cons entry rest ih =>
      rcases List.pairwise_cons.mp nodup with ⟨others, nodup⟩
      rw [List.find?_cons]
      rcases List.mem_cons.mp member with rfl | member
      · simp
      · have other : entry.1 ≠ key := others _ member
        simp only [other, decide_false]
        exact ih member nodup

theorem nodup_entries (t : Table α) : t.entries.Nodup := by
  apply t.pairwise_keys.imp
  intro a b ne eq
  exact ne (congrArg Prod.fst eq)

/-- A table is determined by what it holds for each key. -/
theorem ext_get? {t t' : Table α} (same : ∀ key, t.get? key = t'.get? key) : t = t' := by
  have entries : t.entries = t'.entries := by
    have antisymm : ∀ a b, a ∈ t.entries → b ∈ t'.entries → a.1 < b.1 → b.1 < a.1 → a = b := by
      intro a b _ _ lt gt
      exact absurd (String.lt_trans lt gt) (String.lt_irrefl _)
    have perm : t.entries.Perm t'.entries := by
      apply (List.perm_ext_iff_of_nodup t.nodup_entries t'.nodup_entries).mpr
      rintro ⟨key, value⟩
      rw [← get?_eq_some_iff, same key, get?_eq_some_iff]
    exact List.Perm.eq_of_pairwise antisymm t.sorted t'.sorted perm
  obtain ⟨_, _⟩ := t
  obtain ⟨_, _⟩ := t'
  congr

/-! ## Filling a table -/

/-- Inserts entries one after the other. -/
def insertAll (t : Table α) (entries : List (String × α)) : Table α :=
  entries.foldl (fun t entry => t.insert entry.1 entry.2) t

theorem size_insert (t : Table α) (key : String) (value : α) : (t.insert key value).size ≠ 0 := by
  intro zero
  have absent : (t.insert key value).get? key = none := by
    rw [get?, List.eq_nil_of_length_eq_zero zero]
    rfl
  rw [get?_insert, if_pos rfl] at absent
  cases absent

theorem size_insertAll (t : Table α) {entries : List (String × α)} (some : entries ≠ []) :
    (t.insertAll entries).size ≠ 0 := by
  cases entries using List.reverseRecOn with
  | nil => exact absurd rfl some
  | append_singleton rest entry _ =>
    rw [insertAll, List.foldl_append]
    exact size_insert _ _ _

theorem mem_insertAll {t : Table α} {entries : List (String × α)} {entry : String × α}
    (mem : entry ∈ (t.insertAll entries).entries) : entry ∈ t.entries ∨ entry ∈ entries := by
  induction entries generalizing t with
  | nil => exact .inl mem
  | cons first rest ih =>
    rw [insertAll, List.foldl_cons] at mem
    rcases ih mem with mem | mem
    · rcases mem_insertEntry mem with rfl | mem
      · exact .inr List.mem_cons_self
      · exact .inl mem
    · exact .inr (List.mem_cons_of_mem _ mem)

theorem get?_insertAll_of_other {t : Table α} {entries : List (String × α)} {key : String}
    (other : ∀ entry ∈ entries, entry.1 ≠ key) : (t.insertAll entries).get? key = t.get? key := by
  induction entries generalizing t with
  | nil => rfl
  | cons entry rest ih =>
    rcases List.forall_mem_cons.mp other with ⟨ne, others⟩
    have later := ih (t := t.insert entry.1 entry.2) others
    rw [insertAll, List.foldl_cons]
    rw [get?_insert, if_neg ne] at later
    exact later

/-- Entries that are inserted under other keys are found there, the last one for each key. -/
theorem get?_insertAll_map {f : String → String} (injective : Function.Injective f) (t : Table α)
    (entries : List (String × α)) (key : String) :
    (t.insertAll (entries.map fun entry => (f entry.1, entry.2))).get? (f key) =
      ((empty.insertAll entries).get? key).or (t.get? (f key)) := by
  induction entries using List.reverseRecOn with
  | nil => rfl
  | append_singleton rest entry ih =>
    rw [List.map_append, insertAll, insertAll, List.foldl_append, List.foldl_append]
    simp only [List.map_cons, List.map_nil, List.foldl_cons, List.foldl_nil, get?_insert]
    by_cases same : entry.1 = key
    · simp [same]
    · have other : f entry.1 ≠ f key := fun eq => same (injective eq)
      rw [if_neg other, if_neg same]
      exact ih

theorem get?_insertAll_of_sorted {entries : List (String × α)}
    (sorted : entries.Pairwise fun a b => a.1 < b.1) (start : Table α) (key : String) :
    (start.insertAll entries).get? key =
      ((entries.find? fun entry => entry.1 = key).map Prod.snd).or (start.get? key) := by
  induction entries generalizing start with
  | nil => rfl
  | cons entry rest ih =>
    rcases List.pairwise_cons.mp sorted with ⟨above, sorted⟩
    have later := ih sorted (start.insert entry.1 entry.2)
    rw [insertAll, List.foldl_cons]
    apply later.trans
    rw [get?_insert, List.find?_cons]
    by_cases same : entry.1 = key
    · have later : (rest.find? fun entry => entry.1 = key) = none := by
        apply List.find?_eq_none.mpr
        intro other mem eq
        have lt := above other mem
        rw [same, of_decide_eq_true eq] at lt
        exact String.lt_irrefl _ lt
      simp [same, later]
    · simp [same]

/-- Inserting the entries of a table in a new one makes the table again. -/
theorem insertAll_entries (t : Table α) : empty.insertAll t.entries = t := by
  apply ext_get?
  intro key
  rw [get?_insertAll_of_sorted t.sorted, get?_empty, Option.or_none]
  rfl

/-- Entries may go through a table on their way, under other keys too. -/
theorem insertAll_through {f : String → String} (injective : Function.Injective f) (t : Table α)
    (entries : List (String × α)) :
    t.insertAll ((empty.insertAll entries).entries.map fun entry => (f entry.1, entry.2)) =
      t.insertAll (entries.map fun entry => (f entry.1, entry.2)) := by
  apply ext_get?
  intro key
  by_cases reached : ∃ source, f source = key
  · obtain ⟨source, rfl⟩ := reached
    rw [get?_insertAll_map injective, get?_insertAll_map injective, insertAll_entries]
  · have other : ∀ (entries : List (String × α)),
        ∀ entry ∈ entries.map fun entry => (f entry.1, entry.2), entry.1 ≠ key := by
      intro entries entry mem eq
      rcases List.mem_map.mp mem with ⟨source, -, rfl⟩
      exact reached ⟨source.1, eq⟩
    rw [get?_insertAll_of_other (other _), get?_insertAll_of_other (other _)]

end Table

namespace Memo

variable {κ α : Type} [DecidableEq κ]

/-- What a memo that remembers one more result gives was there before or is that result. -/
theorem get?_remember {m : Memo κ α} {key sought : κ} {result found : α}
    (get : (m.remember key result).get? sought = some found) :
    m.get? sought = some found ∨ sought = key ∧ found = result := by
  rw [remember] at get
  split at get
  · rw [Memo.get?, List.find?_cons] at get
    by_cases same : key = sought
    · simp only [same, decide_true, Option.map_some, Option.some.injEq] at get
      exact .inr ⟨same.symm, get.symm⟩
    · simp only [same, decide_false] at get
      exact .inl get
  · exact .inl get

theorem get?_remember_self (m : Memo κ α) {key : κ} (unknown : m.get? key = none) (result : α) :
    (m.remember key result).get? key = some result := by
  rw [remember, dif_pos unknown, get?, List.find?_cons, decide_eq_true rfl]
  rfl

theorem size_remember (m : Memo κ α) {key : κ} (unknown : m.get? key = none) (result : α) :
    (m.remember key result).size = m.size + 1 := by
  rw [remember, dif_pos unknown]
  rfl

/-- What is remembered stays remembered. -/
theorem get?_remember_of_some {m : Memo κ α} {sought : κ} {found : α}
    (get : m.get? sought = some found) (key : κ) (result : α) :
    (m.remember key result).get? sought = some found := by
  rw [remember]
  split
  · next unknown =>
    have other : key ≠ sought := by
      rintro rfl
      cases unknown.symm.trans get
    rw [get?, List.find?_cons, decide_eq_false other]
    exact get
  · exact get

theorem get?_remember_of_ne {m : Memo κ α} {key sought : κ} (other : sought ≠ key) (result : α) :
    (m.remember key result).get? sought = m.get? sought := by
  rw [remember]
  split
  · rw [get?, List.find?_cons, decide_eq_false other.symm]
    rfl
  · rfl

/-- The keys with a result. -/
theorem mem_keys_iff {m : Memo κ α} {key : κ} :
    key ∈ m.entries.map Prod.fst ↔ ∃ result, m.get? key = some result := by
  constructor
  · intro mem
    cases get : m.get? key with
    | none => exact absurd mem (fst_ne_of_get?_eq_none get)
    | some result => exact ⟨result, rfl⟩
  · rintro ⟨result, get⟩
    obtain ⟨entry, found, -⟩ := Option.map_eq_some_iff.mp get
    have same := List.find?_some found
    exact List.mem_map.mpr ⟨entry, List.mem_of_find?_eq_some found, of_decide_eq_true same⟩

/-- What is remembered of keys that are kept stays, and nothing else does. -/
theorem get?_keep (m : Memo κ α) (kept : κ → Bool) (key : κ) :
    (m.keep kept).get? key = if kept key then m.get? key else none :=
  find?_filter_fst m.entries kept key

end Memo

end RecordRules

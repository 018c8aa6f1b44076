/-!
# Remembered results

A `Memo` remembers what a computation gave for a key, so that it is made once.  Only
what is put into it is remembered; a computation that fails leaves it as it was.
-/

namespace RecordRules

/-- Results by key, the oldest last; no key occurs twice. -/
structure Memo (κ α : Type) [DecidableEq κ] where
  entries : List (κ × α) := []
  keys_nodup : (entries.map Prod.fst).Nodup := by simp

namespace Memo

variable {κ α : Type} [DecidableEq κ]

/-- Nothing remembered. -/
def empty : Memo κ α := {}

instance : Inhabited (Memo κ α) := ⟨empty⟩

/-- What is remembered for a key. -/
def get? (m : Memo κ α) (key : κ) : Option α :=
  (m.entries.find? fun entry => entry.1 = key).map Prod.snd

/-- The number of keys with a result. -/
def size (m : Memo κ α) : Nat :=
  m.entries.length

theorem fst_ne_of_get?_eq_none {m : Memo κ α} {key : κ} (h : m.get? key = none) :
    key ∉ m.entries.map Prod.fst := by
  intro mem
  obtain ⟨entry, found, rfl⟩ := List.mem_map.1 mem
  rw [get?, Option.map_eq_none_iff, List.find?_eq_none] at h
  exact h entry found (by simp)

/-- Remembers a result, unless there is one for the key. -/
def remember (m : Memo κ α) (key : κ) (result : α) : Memo κ α :=
  if h : m.get? key = none then
    ⟨(key, result) :: m.entries, List.nodup_cons.2 ⟨fst_ne_of_get?_eq_none h, m.keys_nodup⟩⟩
  else m

/-- Forgets the results of the keys that are not to be kept. -/
def keep (m : Memo κ α) (kept : κ → Bool) : Memo κ α where
  entries := m.entries.filter fun entry => kept entry.1
  keys_nodup := m.keys_nodup.sublist (List.filter_sublist.map _)

end Memo

end RecordRules

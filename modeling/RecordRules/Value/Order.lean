import RecordRules.Value.Basic

/-!
# Map keys in order

The order in which a map has its keys: numbers by size, texts by their characters,
absent before present, and sequences, maps and structures part by part.  Keys of one
map have one type, so values of different types are not told apart.
-/

namespace RecordRules.Value

mutual

/-- The order of two keys of one type. -/
def order : Value → Value → Ordering
  | bool a, bool b => compare a b
  | integer _ a, integer _ b => compare a.val b.val
  | text a, text b => compare a b
  | fixedText a, fixedText b => compare a b
  | absent _, absent _ => .eq
  | absent _, present _ _ => .lt
  | present _ _, absent _ => .gt
  | present _ a, present _ b => order a b
  | boxed a, boxed b => order a b
  | seq as, seq bs => orderAll as bs
  | map as, map bs => orderEntries as bs
  | record _ as, record _ bs => orderAll as bs
  | _, _ => .eq

/-- The order of two lists, by their first difference. -/
def orderAll : List Value → List Value → Ordering
  | [], [] => .eq
  | [], _ :: _ => .lt
  | _ :: _, [] => .gt
  | a :: as, b :: bs => (order a b).then (orderAll as bs)

/-- The order of two lists of entries, by their first difference. -/
def orderEntries : List (Value × Value) → List (Value × Value) → Ordering
  | [], [] => .eq
  | [], _ :: _ => .lt
  | _ :: _, [] => .gt
  | (ka, va) :: as, (kb, vb) :: bs =>
    ((order ka kb).then (order va vb)).then (orderEntries as bs)

end

/-- Puts an entry at its place in a sorted list, instead of one with the same key. -/
def insertByKey (key value : Value) : List (Value × Value) → List (Value × Value)
  | [] => [(key, value)]
  | (k, v) :: rest =>
    match order key k with
    | .lt => (key, value) :: (k, v) :: rest
    | .eq => (k, value) :: rest
    | .gt => (k, v) :: insertByKey key value rest

/-- The map with these entries; of two with one key the later one counts. -/
def ofEntries (entries : List (Value × Value)) : Value :=
  map (entries.foldl (fun sorted entry => insertByKey entry.1 entry.2 sorted) [])

end RecordRules.Value

import RecordRules.Failure.Basic
import RecordRules.Number.Binary

/-!
# Snapshots

The plain picture of a value: its shape and its scalars, without types, annotations or
anything that could be assigned.  A structure's own check sees the structure this way.
-/

namespace RecordRules

/-- The picture of a value. -/
inductive Snapshot where
  | null
  | bool (value : Bool)
  | int (value : Int64)
  | uint (value : UInt64)
  | float (value : Double)
  | str (value : String)
  /-- A field that does not show itself. -/
  | hidden
  | record (name : String) (fields : List (String × Snapshot))
  | seq (items : List Snapshot)
  | map (entries : List (Snapshot × Snapshot))
  | pointer (target : Snapshot)
  | entry (key value : Snapshot)

namespace Snapshot

instance : Inhabited Snapshot := ⟨null⟩

/-- The picture behind all pointers. -/
def indirect : Snapshot → Snapshot
  | pointer target => target.indirect
  | s => s

/-- The number in the picture, if it is one. -/
def number? (s : Snapshot) : Option Double :=
  match s.indirect with
  | int n => some (.ofInt n.toInt)
  | uint n => some (.ofInt n.toNat)
  | float x => some x
  | _ => none

/-- The picture of a field of a structure. -/
def field? (s : Snapshot) (name : String) : Option Snapshot :=
  match s with
  | record _ fields => (fields.find? fun f => f.1 = name).map Prod.snd
  | _ => none

/-- The check that one field of a structure is not above another; it makes no difference
unless both are numbers. -/
def ordered (low high : String) (s : Snapshot) : Outcome :=
  match (s.field? low).bind number?, (s.field? high).bind number? with
  | some a, some b =>
    if b.lt a then .error { code := "range", message := low ++ " exceeds " ++ high } else .ok ()
  | _, _ => .ok ()

end Snapshot

end RecordRules

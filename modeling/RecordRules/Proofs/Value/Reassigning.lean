import RecordRules.Proofs.Value.Unrolling

/-!
# Assigning anew

What an assignment does does not depend on the value that was there, only on the type
(`Value.set_forgets`).

Of which type a value is is said by `Value.Belongs`, which goes by the shape and the value together.
A value assigns like the zero value of its type (`AssignsAlike`): an absent one is filled with the
zero value, and behind pointers the rest follows.  An assignment, whether it succeeds or not,
leaves a value that assigns like the old one, since what it has put behind a pointer assigns like
the zero value that filling would put there (`Value.Refillable`).  So any number of assignments
may come before.
-/

namespace RecordRules

/-! ## Values of a type -/

/-- The value is one of a shape, names being looked up in a table. -/
inductive Value.Belongs (types : TypeTable) : Shape → Value → Prop
  | bool (b : Bool) : Belongs types .bool (.bool b)
  | integer (type : IntType) (n : type.Number) : Belongs types (.integer type) (.integer type n)
  | single (x : Single) : Belongs types .single (.single x)
  | double (x : Double) : Belongs types .double (.double x)
  | text (s : String) : Belongs types .text (.text s)
  | fixedText (s : String) : Belongs types .fixedText (.fixedText s)
  | json (j : Json) : Belongs types .json (.json j)
  | absent (content : Shape) : Belongs types (.option content) (.absent ⟨content, types⟩)
  | present {content : Shape} {target : Value} : Belongs types content target →
    Belongs types (.option content) (.present ⟨content, types⟩ target)
  | boxed {content : Shape} {target : Value} : Belongs types content target →
    Belongs types (.box content) (.boxed target)
  | seq {item : Shape} {items : List Value} : (∀ v ∈ items, Belongs types item v) →
    Belongs types (.seq item) (.seq items)
  | array {length : Nat} {item : Shape} {items : List Value} : items.length = length →
    (∀ v ∈ items, Belongs types item v) → Belongs types (.array length item) (.seq items)
  | map {key value : Shape} {entries : List (Value × Value)} :
    (∀ e ∈ entries, Belongs types key e.1) → (∀ e ∈ entries, Belongs types value e.2) →
    Belongs types (.map key value) (.map entries)
  | record (type : RecordType) {shapes : List Shape} {fields : List Value} :
    shapes.length = fields.length → (∀ field ∈ shapes.zip fields, Belongs types field.1 field.2) →
    Belongs types (.record type shapes) (.record type fields)
  | named {name : String} {entry : String × Shape} {v : Value} :
    types.find? (fun t => t.1 = name) = some entry → Belongs types entry.2 v →
    Belongs types (.named name) v

namespace Value

/-! ## Values that assign alike -/

/-- Assigning any literal to one value ends like assigning it to the other, and leaves the same if
it succeeds. -/
def AssignsAlike (v v' : Value) : Prop :=
  ∀ l : Literal, Concurs (v.set l) (v'.set l)

namespace AssignsAlike

theorem refl (v : Value) : v.AssignsAlike v :=
  fun _ => .refl _

theorem symm {v v' : Value} (alike : v.AssignsAlike v') : v'.AssignsAlike v :=
  fun l => (alike l).symm

theorem trans {v v' v'' : Value} (alike : v.AssignsAlike v') (alike' : v'.AssignsAlike v'') :
    v.AssignsAlike v'' :=
  fun l => (alike l).trans (alike' l)

/-- Pointers pass assignments on. -/
theorem boxed {v v' : Value} (alike : v.AssignsAlike v') :
    (boxed v).AssignsAlike (boxed v') :=
  fun l => (alike l).behind .boxed

theorem present (content : Content) {v v' : Value} (alike : v.AssignsAlike v') :
    (present content v).AssignsAlike (present content v') := by
  intro l
  rw [set, set, assignWith, assignWith]
  split
  · exact .refl _
  · exact (alike l).behind (.present content)

end AssignsAlike

/-- An absent value assigns as if it had been filled. -/
theorem alike_absent (content : Content) :
    (absent content).AssignsAlike (present content content.zero) := by
  intro l
  by_cases null : l = .null
  · rw [set, set, assignWith, assignWith, if_pos null, if_pos null]
    exact .refl _
  · rw [show (present content content.zero).set l =
      ((content.zero.set l).1, present content (content.zero.set l).2) by
        rw [set, assignWith, if_neg null]; rfl]
    exact concurs_absent null content

/-- Scalars take what they are assigned. -/
theorem alike_adopt {β : Type} {old old' : Value} {make : β → Value}
    {result : Literal → Except SetError β} (sets : ∀ l, old.set l = adopt old make (result l))
    (sets' : ∀ l, old'.set l = adopt old' make (result l)) : old.AssignsAlike old' := by
  intro l
  rw [sets, sets']
  exact concurs_adopt old old' make (result l)

/-- What cannot be assigned says no more than its kind. -/
theorem alike_refusing {v v' : Value}
    (refuses : ∀ l, v.set l = (.error (.unsupported v.kind), v))
    (refuses' : ∀ l, v'.set l = (.error (.unsupported v'.kind), v')) (same : v.kind = v'.kind) :
    v.AssignsAlike v' := by
  intro l
  rw [refuses, refuses', same]
  exact concurs_of_error rfl rfl

end Value

/-! ## Zero values of names -/

namespace Shape

/-- The name that a shape comes down to, behind pointers that are always there. -/
def nameBehind? : Shape → Option String
  | box content => content.nameBehind?
  | named name => some name
  | _ => none

/-- The name that a name comes down to. -/
def nextName? (types : TypeTable) (name : String) : Option String :=
  (types.find? fun t => t.1 = name).bind fun t => t.2.nameBehind?

/-- A zero value depends on names only as far as the shape comes down to one. -/
theorem alike_zeroWith {types : TypeTable} {resolve resolve' : String → Value} (s : Shape)
    (same : ∀ name, s.nameBehind? = some name →
      (resolve name).AssignsAlike (resolve' name)) :
    (s.zeroWith types resolve).AssignsAlike (s.zeroWith types resolve') := by
  match s with
  | box content =>
    have behind : (content.zeroWith types resolve).AssignsAlike (content.zeroWith types resolve') :=
      alike_zeroWith content same
    exact behind.boxed
  | named name => exact same name rfl
  | array length item => exact Value.alike_refusing (fun _ => rfl) (fun _ => rfl) rfl
  | record type fields => exact Value.alike_refusing (fun _ => rfl) (fun _ => rfl) rfl
  | bool | integer _ | single | double | text | fixedText | json | option _ | seq _ | map _ _ =>
    exact .refl _

theorem zeroOfName_succ {types : TypeTable} {name : String} {entry : String × Shape}
    (found : types.find? (fun t => t.1 = name) = some entry) (depth : Nat) :
    zeroOfName types (depth + 1) name = entry.2.zeroWith types (zeroOfName types depth) := by
  rw [zeroOfName, found]

/-- Looking through more names than there are on the way makes no difference. -/
theorem alike_zeroOfName {types : TypeTable} {names : List String} {k : Nat} {name : String}
    (ends : EndsWithin (nextName? types) names k name) {depth depth' : Nat} (enough : k < depth)
    (enough' : k < depth') :
    (zeroOfName types depth name).AssignsAlike (zeroOfName types depth' name) := by
  induction ends generalizing depth depth' with
  | @here name _ stops =>
    obtain ⟨depth, rfl⟩ := Nat.exists_eq_succ_of_ne_zero (by omega : depth ≠ 0)
    obtain ⟨depth', rfl⟩ := Nat.exists_eq_succ_of_ne_zero (by omega : depth' ≠ 0)
    cases found : types.find? fun t => t.1 = name with
    | none =>
      simp only [zeroOfName, found]
      exact .refl _
    | some entry =>
      rw [zeroOfName_succ found, zeroOfName_succ found]
      refine alike_zeroWith entry.2 fun next is => ?_
      simp [nextName?, found, is] at stops
  | @step name next k _ goes _ ih =>
    obtain ⟨depth, rfl⟩ := Nat.exists_eq_succ_of_ne_zero (by omega : depth ≠ 0)
    obtain ⟨depth', rfl⟩ := Nat.exists_eq_succ_of_ne_zero (by omega : depth' ≠ 0)
    cases found : types.find? fun t => t.1 = name with
    | none => simp [nextName?, found] at goes
    | some entry =>
      rw [zeroOfName_succ found, zeroOfName_succ found]
      refine alike_zeroWith entry.2 fun next' is => ?_
      obtain rfl : next = next' := by simpa [nextName?, found, is] using goes.symm
      exact ih (by omega) (by omega)

end Shape

namespace Value

/-- If there is a value, names come to an end. -/
theorem endsWithin_of_belongs {types : TypeTable} {s : Shape} {v : Value}
    (belongs : Belongs types s v) :
    ∀ name, s.nameBehind? = some name →
      ∃ k, EndsWithin (Shape.nextName? types) (types.map Prod.fst) k name := by
  induction belongs with
  | boxed _ ih => exact ih
  | @named name entry _ found _ ih =>
    intro behind is
    obtain rfl : name = behind := Option.some.inj is
    have listed : name ∈ types.map Prod.fst := by
      have same : entry.1 = name := by simpa using List.find?_some found
      exact List.mem_map.mpr ⟨entry, List.mem_of_find?_eq_some found, same⟩
    cases next : entry.2.nameBehind? with
    | none => exact ⟨0, .here listed (by simp [Shape.nextName?, found, next])⟩
    | some inner =>
      obtain ⟨k, ends⟩ := ih inner next
      exact ⟨k + 1, .step listed (by simp [Shape.nextName?, found, next]) ends⟩
  | bool _ | integer _ _ | single _ | double _ | text _ | fixedText _ | json _ | absent _
  | present _ _ | seq _ _ | array _ _ _ | map _ _ _ _ | record _ _ _ _ => exact nofun

/-- The zero value of a name is that of the shape that it stands for. -/
theorem alike_named {types : TypeTable} {name : String} {entry : String × Shape} {v : Value}
    (found : types.find? (fun t => t.1 = name) = some entry) (belongs : Belongs types entry.2 v) :
    (entry.2.zero types).AssignsAlike ((Shape.named name).zero types) := by
  obtain ⟨k, ends⟩ := endsWithin_of_belongs (.named found belongs) name rfl
  have few := ends.lt_length
  rw [List.length_map] at few
  obtain ⟨depth, is⟩ := Nat.exists_eq_succ_of_ne_zero (by omega : types.length ≠ 0)
  rw [Shape.zero, Shape.zero, Shape.zeroWith, is, Shape.zeroOfName_succ found]
  refine Shape.alike_zeroWith entry.2 fun next behind => ?_
  have goes : Shape.nextName? types name = some next := by simp [Shape.nextName?, found, behind]
  cases ends with
  | here _ stops => simp [stops] at goes
  | @step _ next' k _ goes' rest =>
    obtain rfl : next' = next := Option.some.inj (goes'.symm.trans goes)
    exact Shape.alike_zeroOfName rest (by omega) (by omega)

/-- Every value assigns like the zero value of its type. -/
theorem alike_zero {types : TypeTable} {s : Shape} {v : Value} (belongs : Belongs types s v) :
    v.AssignsAlike (s.zero types) := by
  induction belongs with
  | bool b => exact alike_adopt (fun _ => rfl) fun _ => rfl
  | integer type n => exact alike_adopt (fun _ => rfl) fun _ => rfl
  | single x => exact alike_adopt (fun _ => rfl) fun _ => rfl
  | double x => exact alike_adopt (fun _ => rfl) fun _ => rfl
  | text s => exact alike_adopt (fun _ => rfl) fun _ => rfl
  | json j => exact fun _ => ⟨rfl, fun _ => rfl⟩
  | absent content => exact .refl _
  | present _ ih => exact (ih.present _).trans (alike_absent _).symm
  | boxed _ ih => exact ih.boxed
  | fixedText s => exact alike_refusing (fun _ => rfl) (fun _ => rfl) rfl
  | seq _ => exact alike_refusing (fun _ => rfl) (fun _ => rfl) rfl
  | array _ _ => exact alike_refusing (fun _ => rfl) (fun _ => rfl) rfl
  | map _ _ => exact alike_refusing (fun _ => rfl) (fun _ => rfl) rfl
  | record type _ _ => exact alike_refusing (fun _ => rfl) (fun _ => rfl) rfl
  | named found belongs ih => exact ih.trans (alike_named found belongs)

/-! ## One assignment after another -/

/-- What stands behind optional pointers assigns like what they would be filled with. -/
def Refillable : Value → Prop
  | present content target => target.AssignsAlike content.zero ∧ target.Refillable
  | boxed target => target.Refillable
  | _ => True

theorem refillable_of_belongs {types : TypeTable} {s : Shape} {v : Value}
    (belongs : Belongs types s v) : v.Refillable := by
  induction belongs with
  | present target ih => exact ⟨alike_zero target, ih⟩
  | boxed _ ih => exact ih
  | named _ _ ih => exact ih
  | bool _ | integer _ _ | single _ | double _ | text _ | fixedText _ | json _ | absent _ | seq _ _
  | array _ _ _ | map _ _ _ _ | record _ _ _ _ => trivial

/-- In zero values optional pointers are absent. -/
theorem refillable_zeroWith {types : TypeTable} {resolve : String → Value}
    (names : ∀ name, (resolve name).Refillable) (s : Shape) :
    (s.zeroWith types resolve).Refillable := by
  match s with
  | .box content => exact refillable_zeroWith names content
  | .named name => exact names name
  | .bool | .integer _ | .single | .double | .text | .fixedText | .json | .option _ | .seq _
  | .array _ _ | .map _ _ | .record _ _ => trivial

theorem refillable_zeroOfName (types : TypeTable) (depth : Nat) (name : String) :
    (Shape.zeroOfName types depth name).Refillable := by
  induction depth generalizing name with
  | zero => trivial
  | succ depth ih =>
    rw [Shape.zeroOfName]
    split
    · exact refillable_zeroWith ih _
    · trivial

theorem refillable_zero (content : Content) : content.zero.Refillable :=
  refillable_zeroWith (refillable_zeroOfName _ _) content.shape

/-- A value that an assignment has left assigns as before. -/
structure Settled (before after : Value) : Prop where
  refillable : after.Refillable
  alike : after.AssignsAlike before

theorem settled_adopt {β : Type} {old : Value} {make : β → Value} {result : Except SetError β}
    (kept : Settled old old) (made : ∀ b, Settled old (make b)) :
    Settled old (adopt old make result).2 := by
  cases result with
  | ok b => exact made b
  | error e => exact kept

theorem settled_assignWith {fill : Content → Assigned} {l : Literal}
    (fills : ∀ content, Settled (absent content) (fill content).2) :
    ∀ v : Value, v.Refillable → Settled v (v.assignWith fill l).2
  | .bool b, _ => settled_adopt ⟨trivial, .refl _⟩ fun _ =>
      ⟨trivial, alike_adopt (fun _ => rfl) fun _ => rfl⟩
  | .integer type n, _ => settled_adopt ⟨trivial, .refl _⟩ fun _ =>
      ⟨trivial, alike_adopt (fun _ => rfl) fun _ => rfl⟩
  | .single x, _ => settled_adopt ⟨trivial, .refl _⟩ fun _ =>
      ⟨trivial, alike_adopt (fun _ => rfl) fun _ => rfl⟩
  | .double x, _ => settled_adopt ⟨trivial, .refl _⟩ fun _ =>
      ⟨trivial, alike_adopt (fun _ => rfl) fun _ => rfl⟩
  | .text s, _ => settled_adopt ⟨trivial, .refl _⟩ fun _ =>
      ⟨trivial, alike_adopt (fun _ => rfl) fun _ => rfl⟩
  | .json j, _ => ⟨trivial, fun _ => ⟨rfl, fun _ => rfl⟩⟩
  | .absent content, _ => by
    rw [assignWith]
    split
    · exact ⟨trivial, .refl _⟩
    · exact fills content
  | .present content target, ⟨alike, refillable⟩ => by
    rw [assignWith]
    split
    · exact ⟨trivial, (alike_absent content).trans (alike.symm.present content)⟩
    · have inner := settled_assignWith (l := l) fills target refillable
      exact ⟨⟨inner.alike.trans alike, inner.refillable⟩, inner.alike.present content⟩
  | .boxed target, refillable => by
    have inner := settled_assignWith (l := l) fills target refillable
    exact ⟨inner.refillable, inner.alike.boxed⟩
  | .fixedText _, _ | .seq _, _ | .map _, _ | .record _ _, _ | .entry _ _, _ =>
    ⟨trivial, .refl _⟩

theorem settled_fillWith (l : Literal) (depth : Nat) (content : Content) :
    Settled (absent content) (fillWith l depth content).2 := by
  induction depth generalizing content with
  | zero => exact ⟨trivial, .refl _⟩
  | succ depth ih =>
    have inner := settled_assignWith (l := l) ih content.zero (refillable_zero content)
    exact ⟨⟨inner.alike, inner.refillable⟩,
      (inner.alike.present content).trans (alike_absent content).symm⟩

theorem settled_set (l : Literal) {v : Value} (refillable : v.Refillable) :
    Settled v (v.set l).2 :=
  settled_assignWith (fun content => settled_fillWith l content.fillDepth content) v refillable

/-- Assigns literals one after the other, whether or not the value takes them. -/
def setAll (ls : List Literal) (v : Value) : Value :=
  ls.foldl (fun v l => (v.set l).2) v

theorem settled_setAll (ls : List Literal) {v : Value} (refillable : v.Refillable) :
    Settled v (v.setAll ls) := by
  induction ls generalizing v with
  | nil => exact ⟨refillable, .refl v⟩
  | cons l ls ih =>
    have first := settled_set l refillable
    have rest := ih first.refillable
    exact ⟨rest.refillable, rest.alike.trans first.alike⟩

/-- What has been assigned to values of a type makes no difference to what is assigned next. -/
theorem alike_setAll {types : TypeTable} {s : Shape} {v v' : Value} (belongs : Belongs types s v)
    (belongs' : Belongs types s v') (before before' : List Literal) :
    (v.setAll before).AssignsAlike (v'.setAll before') := by
  have settled := settled_setAll before (refillable_of_belongs belongs)
  have settled' := settled_setAll before' (refillable_of_belongs belongs')
  have same := (alike_zero belongs).trans (alike_zero belongs').symm
  exact settled.alike.trans (same.trans settled'.alike.symm)

/-- Assigning a literal to two values of one type ends alike, with the same error if it fails, and
leaves the same value if it succeeds.  It is so whatever literals have been assigned before, so
that of several assignments the last one alone counts, if it succeeds. -/
theorem set_forgets {types : TypeTable} {s : Shape} {v v' : Value} (belongs : Belongs types s v)
    (belongs' : Belongs types s v') (l : Literal) :
    ((v.set l).1 = (v'.set l).1 ∧ ((v.set l).1 = .ok () → (v.set l).2 = (v'.set l).2)) ∧
      ∀ before before' : List Literal,
        ((v.setAll before).set l).1 = ((v'.setAll before').set l).1 ∧
          (((v.setAll before).set l).1 = .ok () →
            v.setAll (before ++ [l]) = v'.setAll (before' ++ [l])) := by
  refine ⟨alike_setAll belongs belongs' [] [] l, fun before before' => ?_⟩
  obtain ⟨outcome, left⟩ := alike_setAll belongs belongs' before before' l
  refine ⟨outcome, fun ok => ?_⟩
  rw [setAll, setAll, List.foldl_append, List.foldl_append]
  exact left ok

/-- An optional port that is absent and one that is given, with the type of the latter behind a
name. -/
theorem set_forgets_port :
    let types : TypeTable := [("Port", .box (.option (.integer .uint16)))]
    let absentPort : Value := .absent ⟨.named "Port", types⟩
    let port : Value := .present ⟨.named "Port", types⟩
      (.boxed (.present ⟨.integer .uint16, types⟩ (.integer .uint16 ⟨7, by decide⟩)))
    let l : Literal := .str " 80 "
    Belongs types (.option (.named "Port")) absentPort ∧
      Belongs types (.option (.named "Port")) port ∧ (absentPort.set l).1 = .ok () ∧
      (absentPort.set l).2 = (port.set l).2 ∧ ((port.setAll [.int 9, .null]).set l).1 = .ok () ∧
      absentPort.setAll [.str "x", l] = port.setAll [.int 9, .null, l] := by
  intro types absentPort port l
  have belongs : Belongs types (.option (.named "Port")) absentPort := .absent _
  have belongs' : Belongs types (.option (.named "Port")) port :=
    .present (.named rfl (.boxed (.present (.integer _ _))))
  have taken : (absentPort.set l).1 = .ok () := by decide +kernel
  have taken_later : ((absentPort.setAll [.str "x"]).set l).1 = .ok () := by decide +kernel
  obtain ⟨⟨-, left⟩, later⟩ := set_forgets belongs belongs' l
  obtain ⟨outcome, left_later⟩ := later [.str "x"] [.int 9, .null]
  exact ⟨belongs, belongs', taken, left taken, outcome ▸ taken_later, left_later taken_later⟩

end Value

end RecordRules

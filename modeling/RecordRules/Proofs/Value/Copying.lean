import RecordRules.Proofs.Number.Fraction
import RecordRules.Proofs.Value.Integer
import RecordRules.Proofs.Value.Reassigning

/-!
# Copying scalars

A field reads as a literal, and the literal can be assigned to another field of the same type,
which then reads as that literal (`Value.set_copied`).  It is enough to see this for a value
that is assigned what it reads as itself, because assigning does not depend on the old value.

What is read is wider than what is there: integers come as words of 64 bits, and single numbers
as doubles.  The way back is exact in each case.  Of all the pointers that may be null only
the innermost one is told by the literal, so the value need not be what it was before.
-/

namespace RecordRules

/-- The scalar types that can be assigned, and pointers to them, names being looked up in a
table. -/
inductive Shape.Scalar (types : TypeTable) : Shape → Prop
  | bool : Scalar types .bool
  | integer (type : IntType) : Scalar types (.integer type)
  | single : Scalar types .single
  | double : Scalar types .double
  | text : Scalar types .text
  | json : Scalar types .json
  | option {content : Shape} : Scalar types content → Scalar types (.option content)
  | box {content : Shape} : Scalar types content → Scalar types (.box content)
  | named {name : String} {entry : String × Shape} :
    types.find? (fun t => t.1 = name) = some entry → Scalar types entry.2 →
    Scalar types (.named name)

namespace Value

/-! ## Assigning what is read -/

/-- An integer reads as a word that stands for it. -/
theorem word_of_literal? {v : Value} {n : Int} {l : Literal} (is : v.integer? = some n)
    (reads : v.literal? = some l) :
    (∃ word : Int64, l = .int word ∧ word.toInt = n) ∨
      ∃ word : UInt64, l = .uint word ∧ (word.toNat : Int) = n := by
  have shows := shows_of_integer? is
  rw [literal?] at reads
  generalize v.indirect.view = view at shows reads
  cases shows with
  | @int word stands => exact .inl ⟨word, (Option.some.inj reads).symm, stands⟩
  | @uint word stands => exact .inr ⟨word, (Option.some.inj reads).symm, stands⟩

theorem fit_val {t : IntType} (l : Literal) (n : t.Number) : l.fit t n.val = .ok n := by
  rw [Literal.fit, IntType.number?, dif_pos n.property]

/-- An integer is the integer of its type that it reads as. -/
theorem toInteger_of_literal? {t : IntType} {n : t.Number} {l : Literal}
    (reads : (integer t n).literal? = some l) : l.toInteger t = .ok n := by
  rcases word_of_literal? rfl reads with ⟨word, rfl, stands⟩ | ⟨word, rfl, stands⟩
  · rw [Literal.toInteger, stands, fit_val]
  · rw [Literal.toInteger, stands, fit_val]

/-- A document that reads as a literal is the document that the literal is. -/
theorem ofLiteral_of_literal? {j : Json} {l : Literal} (reads : (json j).literal? = some l) :
    Json.ofLiteral l = j := by
  cases j with
  | integer n =>
    rcases word_of_literal? rfl reads with ⟨word, rfl, stands⟩ | ⟨word, rfl, stands⟩
    · rw [Json.ofLiteral, stands, Json.ofInt, dif_pos n.property]
    · rw [Json.ofLiteral, stands, Json.ofInt, dif_pos n.property]
  | float x =>
    obtain rfl := Option.some.inj reads
    rw [Json.ofLiteral, Json.ofDouble, dif_pos x.property]
  | null | bool _ | string _ =>
    obtain rfl := Option.some.inj reads
    rfl
  | array _ | object _ => cases reads

/-- A value that can be assigned takes what it reads as, and reads so again. -/
theorem set_own {v : Value} {l : Literal} (takes : ∀ text, v.indirect ≠ fixedText text)
    (reads : v.literal? = some l) : (v.set l).1 = .ok () ∧ (v.set l).2.literal? = some l := by
  match v with
  | bool b =>
    obtain rfl := Option.some.inj reads
    exact ⟨rfl, rfl⟩
  | integer t n =>
    have turned := toInteger_of_literal? reads
    rw [set, assignWith, turned]
    exact ⟨rfl, reads⟩
  | single x =>
    obtain rfl := Option.some.inj reads
    rw [set, assignWith, Literal.toBinary, Binary.convert_convert BinaryFormat.single_within_double]
    exact ⟨rfl, rfl⟩
  | double x =>
    obtain rfl := Option.some.inj reads
    rw [set, assignWith, Literal.toBinary, Binary.convert_self]
    exact ⟨rfl, rfl⟩
  | text s =>
    obtain rfl := Option.some.inj reads
    exact ⟨rfl, rfl⟩
  | fixedText s => exact absurd rfl (takes s)
  | json j =>
    rw [set, assignWith, ofLiteral_of_literal? reads]
    exact ⟨rfl, reads⟩
  | absent content =>
    obtain rfl := Option.some.inj reads
    exact ⟨rfl, rfl⟩
  | present content target =>
    rw [set, assignWith]
    split
    · next null => exact ⟨rfl, congrArg some null.symm⟩
    · exact set_own (v := target) takes reads
  | boxed target => exact set_own (v := target) takes reads
  | seq _ | map _ | record _ _ | entry _ _ => cases reads

/-- A value of a scalar type is no fixed text, behind pointers or not. -/
theorem indirect_ne_fixedText {types : TypeTable} {s : Shape} {v : Value} (scalar : s.Scalar types)
    (belongs : Belongs types s v) (text : String) : v.indirect ≠ fixedText text := by
  induction belongs with
  | present _ ih =>
    cases scalar with
    | option content => exact ih content
  | boxed _ ih =>
    cases scalar with
    | box content => exact ih content
  | named found _ ih =>
    cases scalar with
    | named found' entry =>
      obtain rfl := Option.some.inj (found.symm.trans found')
      exact ih entry
  | fixedText _ => cases scalar
  | bool _ | integer _ _ | single _ | double _ | text _ | json _ | absent _ | seq _ | array _ _
  | map _ _ | record _ _ _ => exact nofun

/-- What a value of a scalar type reads as can be assigned to every other value of the type, and
that reads as the same literal then. -/
theorem set_copied {types : TypeTable} {s : Shape} {x y : Value} {l : Literal}
    (scalar : s.Scalar types) (belongs : Belongs types s x) (belongs' : Belongs types s y)
    (reads : x.literal? = some l) :
    (y.set l).1 = .ok () ∧ (y.set l).2.literal? = some l := by
  obtain ⟨takes, again⟩ := set_own (indirect_ne_fixedText scalar belongs) reads
  obtain ⟨outcome, left⟩ := (alike_zero belongs).trans (alike_zero belongs').symm l
  exact ⟨outcome ▸ takes, left takes ▸ again⟩

/-- A single number, optional and behind pointers, is copied to where there is none; the double
between them is not one of the short decimals. -/
theorem set_copied_third :
    let content : Content := ⟨.box (.option .single), []⟩
    let third : Single := .ofRatio false 1 3
    let x : Value := .present content (.boxed (.present ⟨.single, []⟩ (.single third)))
    let y : Value := .absent content
    x.literal? = some (.float third.convert) ∧ (y.set (.float third.convert)).1 = .ok () ∧
      (y.set (.float third.convert)).2.literal? = some (.float third.convert) := by
  intro content third x y
  have scalar : Shape.Scalar [] (.option (.box (.option .single))) :=
    .option (.box (.option .single))
  have belongs : Belongs [] (.option (.box (.option .single))) x :=
    .present (.boxed (.present (.single third)))
  have belongs' : Belongs [] (.option (.box (.option .single))) y := .absent _
  exact ⟨rfl, set_copied scalar belongs belongs' rfl⟩

end Value

end RecordRules

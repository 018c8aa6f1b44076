import RecordRules.Text.Code

/-!
# UTF-8

The bytes of a text, and the characters between two byte offsets.  A character below `0x80`
is one byte with its code; all bytes of other characters are at least `0x80`.  So a scan
that looks for ASCII characters only can go byte by byte.
-/

namespace RecordRules

/-- The bytes of a text. -/
def utf8 (cs : List Char) : List UInt8 :=
  cs.flatMap String.utf8EncodeChar

@[simp] theorem utf8_nil : utf8 [] = [] := rfl

@[simp] theorem utf8_cons (c : Char) (cs : List Char) :
    utf8 (c :: cs) = String.utf8EncodeChar c ++ utf8 cs := rfl

@[simp] theorem utf8_append (cs cs' : List Char) : utf8 (cs ++ cs') = utf8 cs ++ utf8 cs' :=
  List.flatMap_append

@[simp] theorem length_utf8 (cs : List Char) : (utf8 cs).length = byteLength cs := by
  induction cs with
  | nil => rfl
  | cons c cs ih => rw [utf8_cons, List.length_append, ih, String.length_utf8EncodeChar, byteLength]

@[simp] theorem byteLength_append (cs cs' : List Char) :
    byteLength (cs ++ cs') = byteLength cs + byteLength cs' := by
  rw [← length_utf8, utf8_append, List.length_append, length_utf8, length_utf8]

theorem byteLength_eq_zero {cs : List Char} (none : byteLength cs = 0) : cs = [] := by
  cases cs with
  | nil => rfl
  | cons c cs =>
    have size := c.utf8Size_pos
    rw [byteLength] at none
    omega

/-- The bytes of a character that is no ASCII character. -/
theorem high_bytes {c : Char} (high : 0x80 ≤ c.toNat) :
    ∀ b ∈ String.utf8EncodeChar c, 0x80 ≤ b.toNat := by
  have code : c.val.toNat = c.toNat := rfl
  have valid : c.toNat < 0xd800 ∨ 0xdfff < c.toNat ∧ c.toNat < 0x110000 := c.valid
  intro b mem
  rw [String.utf8EncodeChar, code] at mem
  split at mem
  · omega
  · split at mem
    · simp only [List.mem_cons, List.not_mem_nil, or_false] at mem
      rcases mem with rfl | rfl
      all_goals
        rw [UInt8.toNat_ofNat']
        omega
    · split at mem
      · simp only [List.mem_cons, List.not_mem_nil, or_false] at mem
        rcases mem with rfl | rfl | rfl
        all_goals
          rw [UInt8.toNat_ofNat']
          omega
      · simp only [List.mem_cons, List.not_mem_nil, or_false] at mem
        rcases mem with rfl | rfl | rfl | rfl
        all_goals
          rw [UInt8.toNat_ofNat']
          omega

theorem ascii_byte {c : Char} (low : c.toNat < 0x80) :
    String.utf8EncodeChar c = [UInt8.ofNat c.toNat] := by
  have code : c.val.toNat = c.toNat := rfl
  rw [String.utf8EncodeChar, code]
  exact if_pos (by omega)

/-! ## Slices -/

/-- The characters between two byte offsets, if both lie on character boundaries. -/
def slice? (cs : List Char) (low high : Nat) : Option (List Char) :=
  (splitAtByte? low cs).bind fun (_, rest) => (splitAtByte? (high - low) rest).map Prod.fst

theorem splitAtByte?_eq_some_iff {offset : Nat} {cs front rest : List Char} :
    splitAtByte? offset cs = some (front, rest) ↔
      cs = front ++ rest ∧ byteLength front = offset := by
  induction cs generalizing offset front with
  | nil =>
    rw [splitAtByte?]
    constructor
    · intro split
      split at split
      · next zero =>
        cases split
        exact ⟨rfl, zero.symm⟩
      · cases split
    · rintro ⟨nothing, rfl⟩
      rcases List.append_eq_nil_iff.mp nothing.symm with ⟨rfl, rfl⟩
      rfl
  | cons c cs ih =>
    have size := c.utf8Size_pos
    rw [splitAtByte?]
    constructor
    · intro split
      split at split
      · next zero =>
        cases split
        exact ⟨rfl, zero.symm⟩
      · split at split
        · next fits =>
          obtain ⟨⟨front', rest'⟩, split, same⟩ := Option.map_eq_some_iff.mp split
          cases same
          obtain ⟨rfl, length⟩ := ih.mp split
          refine ⟨rfl, ?_⟩
          rw [byteLength, length]
          omega
        · cases split
    · rintro ⟨text, rfl⟩
      cases front with
      | nil =>
        rw [byteLength, if_pos rfl, text]
        rfl
      | cons c' front =>
        rw [List.cons_append, List.cons.injEq] at text
        obtain ⟨rfl, rfl⟩ := text
        rw [byteLength, if_neg (by omega), if_pos (by omega), Nat.add_sub_cancel_left,
          ih.mpr ⟨rfl, rfl⟩, Option.map_some]

/-- What is put behind a text is cut off at the byte where the text ends. -/
theorem endAtByte?_append (front rest : String) :
    endAtByte? (byteLength front.toList) (front ++ rest) = some front := by
  rw [endAtByte?, String.toList_append, byteLength_append]
  split
  · next short =>
    have nothing : rest.toList = [] := byteLength_eq_zero (by omega)
    rw [String.toList_eq_nil_iff.mp nothing, String.append_empty]
  · rw [splitAtByte?_eq_some_iff.mpr ⟨rfl, rfl⟩, Option.map_some]
    exact congrArg some String.ofList_toList

theorem slice?_append (front middle rest : List Char) :
    slice? (front ++ (middle ++ rest)) (byteLength front) (byteLength front + byteLength middle) =
      some middle := by
  rw [slice?, splitAtByte?_eq_some_iff.mpr ⟨rfl, rfl⟩, Option.bind_some, Nat.add_sub_cancel_left]
  dsimp only
  rw [splitAtByte?_eq_some_iff.mpr ⟨rfl, rfl⟩, Option.map_some]

end RecordRules

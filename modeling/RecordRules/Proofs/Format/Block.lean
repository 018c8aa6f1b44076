import RecordRules.Format.Address
import RecordRules.Proofs.Number.Digits
import RecordRules.Proofs.Text.Pieces

/-!
# Address blocks

What is accepted as a block is an address, a slash and a number of bits in decimal digits, at most
as many as the address has (`isAddressBlock_iff`).  The number may have a plus in front; as no
address has one, the blocks without it are those that have no plus at all (`isBlock_iff`).
-/

namespace RecordRules

/-! ## Characters of addresses -/

/-- The character may stand in an address. -/
def IsAddressChar (c : Char) : Prop :=
  (hexDigit? c).isSome ∨ c = '.' ∨ c = ':'

instance (c : Char) : Decidable (IsAddressChar c) :=
  inferInstanceAs (Decidable (_ ∨ _))

theorem IsAddressChar.of_isDigit {c : Char} (digit : c.isDigit = true) : IsAddressChar c := by
  rw [IsAddressChar, hexDigit?, if_pos digit]
  exact .inl rfl

theorem isDigit_of_isDecimalByte {cs : List Char} (byte : isDecimalByte cs = true) :
    ∀ c ∈ cs, c.isDigit = true := by
  rw [isDecimalByte] at byte
  cases read : readNatural cs with
  | none => simp [read] at byte
  | some n => exact (readNatural_eq_some_iff.mp read).1.digit

/-- An address of the fourth version has only digits and points. -/
theorem digit_or_point {cs : List Char} (v4 : isIpv4Address cs = true) {c : Char} (mem : c ∈ cs) :
    c.isDigit = true ∨ c = '.' := by
  rw [isIpv4Address, Bool.and_eq_true, List.all_eq_true] at v4
  rcases mem_piecesAt mem with point | ⟨piece, there, within⟩
  · exact .inr point
  · exact .inl (isDigit_of_isDecimalByte (v4.2 piece there) c within)

theorem isAddressChar_of_isIpv4Address {cs : List Char} (v4 : isIpv4Address cs = true) :
    ∀ c ∈ cs, IsAddressChar c := fun _ mem =>
  (digit_or_point v4 mem).elim .of_isDigit fun point => .inr (.inl point)

theorem isAddressChar_of_isHexGroup {cs : List Char} (group : isHexGroup cs = true) :
    ∀ c ∈ cs, IsAddressChar c := by
  rw [isHexGroup, Bool.and_eq_true, List.all_eq_true] at group
  exact fun c mem => .inl (group.2 c mem)

theorem isAddressChar_of_groupCount {v4 : Bool} {pieces : List (List Char)} {n : Nat}
    (count : groupCount v4 pieces = some n) : ∀ piece ∈ pieces, ∀ c ∈ piece, IsAddressChar c := by
  induction pieces generalizing n with
  | nil => exact fun _ none => nomatch none
  | cons piece pieces ih =>
    cases pieces with
    | nil =>
      refine List.forall_mem_singleton.mpr ?_
      rw [groupCount] at count
      split at count
      · next group => exact isAddressChar_of_isHexGroup group
      · split at count
        · next last => exact isAddressChar_of_isIpv4Address (Bool.and_eq_true_iff.mp last).2
        · cases count
    | cons next others =>
      rw [groupCount] at count
      · split at count
        · next group =>
          obtain ⟨_, rest, _⟩ := Option.map_eq_some_iff.mp count
          exact List.forall_mem_cons.mpr ⟨isAddressChar_of_isHexGroup group, ih rest⟩
        · cases count
      · exact nofun

theorem isAddressChar_of_pieces {v4 : Bool} {cs : List Char} {n : Nat}
    (count : groupCount v4 (piecesAt ':' cs) = some n) : ∀ c ∈ cs, IsAddressChar c := by
  intro c mem
  rcases mem_piecesAt mem with colon | ⟨piece, there, within⟩
  · exact .inr (.inr colon)
  · exact isAddressChar_of_groupCount count piece there c within

theorem isAddressChar_of_sideCount {v4 : Bool} {cs : List Char} {n : Nat}
    (count : sideCount v4 cs = some n) : ∀ c ∈ cs, IsAddressChar c := by
  rw [sideCount] at count
  split at count
  · next nothing =>
    rw [List.isEmpty_iff.mp nothing]
    exact fun _ none => nomatch none
  · exact isAddressChar_of_pieces count

theorem eq_of_cutAtGap {cs front back : List Char} (cut : cutAtGap cs = some (front, back)) :
    cs = front ++ ':' :: ':' :: back := by
  induction cs generalizing front with
  | nil => cases cut
  | cons c cs ih =>
    unfold cutAtGap at cut
    split at cut
    · next is =>
      cases cut
      rw [is]
      rfl
    · next is =>
      obtain ⟨⟨front', back'⟩, rest, same⟩ := Option.map_eq_some_iff.mp cut
      cases is
      cases same
      rw [ih rest]
      rfl
    · cases cut

/-- An address of the sixth version has only characters of addresses, and a colon among them. -/
theorem isAddressChar_of_isIpv6Address {cs : List Char} (v6 : isIpv6Address cs = true) :
    (∀ c ∈ cs, IsAddressChar c) ∧ ':' ∈ cs := by
  rw [isIpv6Address] at v6
  split at v6
  · next front back cut =>
    rw [eq_of_cutAtGap cut]
    refine ⟨?_, by simp⟩
    split at v6
    · next before after =>
      refine List.forall_mem_append.mpr ⟨isAddressChar_of_sideCount before, ?_⟩
      have colon : IsAddressChar ':' := by decide
      exact List.forall_mem_cons.mpr ⟨colon,
        List.forall_mem_cons.mpr ⟨colon, isAddressChar_of_sideCount after⟩⟩
    · cases v6
  · have count := eq_of_beq v6
    refine ⟨isAddressChar_of_pieces count, ?_⟩
    -- Without a colon there is a single piece, which is one group or two.
    refine Decidable.not_not.mp fun none => ?_
    rw [piecesAt_of_not_mem none, groupCount] at count
    split at count
    · cases count
    · split at count <;> cases count

/-! ## Addresses and their bits -/

/-- An address has so many bits. -/
inductive HasWidth (address : List Char) : Nat → Prop
  | v4 : isIpv4Address address = true → HasWidth address 32
  | v6 : isIpv6Address address = true → HasWidth address 128

namespace HasWidth

variable {address : List Char} {m n : Nat}

theorem isAddressChar (width : HasWidth address n) : ∀ c ∈ address, IsAddressChar c := by
  cases width with
  | v4 is => exact isAddressChar_of_isIpv4Address is
  | v6 is => exact (isAddressChar_of_isIpv6Address is).1

theorem not_mem {c : Char} (width : HasWidth address n) (other : ¬ IsAddressChar c) :
    c ∉ address :=
  fun mem => other (width.isAddressChar c mem)

/-- No text is an address of both versions. -/
theorem not_v4_and_v6 : ¬ (isIpv4Address address = true ∧ isIpv6Address address = true) := by
  rintro ⟨v4, v6⟩
  rcases digit_or_point v4 (isAddressChar_of_isIpv6Address v6).2 with digit | point
  · exact absurd digit (by decide)
  · exact absurd point (by decide)

theorem unique (width : HasWidth address m) (width' : HasWidth address n) : m = n := by
  cases width with
  | v4 is =>
    cases width' with
    | v4 _ => rfl
    | v6 is' => exact (not_v4_and_v6 ⟨is, is'⟩).elim
  | v6 is =>
    cases width' with
    | v4 is' => exact (not_v4_and_v6 ⟨is', is⟩).elim
    | v6 _ => rfl

end HasWidth

/-! ## Blocks -/

/-- An address, a slash and a number, not greater than how many bits the address has, that is
written in digits with a sign in front. -/
def IsBlock (sign cs : List Char) : Prop :=
  ∃ address width digits, HasWidth address width ∧ AreDigits digits ∧
    Nat.ofDigitChars 10 digits 0 ≤ width ∧ cs = address ++ '/' :: (sign ++ digits)

/-- An unsigned number is digits, perhaps with a plus in front. -/
theorem readInteger_unsigned {cs : List Char} {n : Int} (read : readInteger false cs = some n) :
    ∃ digits, AreDigits digits ∧ n = (Nat.ofDigitChars 10 digits 0 : Nat) ∧
      (cs = digits ∨ cs = '+' :: digits) := by
  cases readInteger_eq_some_iff.mp read with
  | plain digits => exact ⟨_, digits, rfl, .inl rfl⟩
  | plus digits => exact ⟨_, digits, rfl, .inr rfl⟩
  | minus signed => cases signed

theorem isAddressBlock_of_read {address bits : List Char} {width n : Nat}
    (has : HasWidth address width) (read : readInteger false bits = some (n : Int))
    (within : n ≤ width) : isAddressBlock (address ++ '/' :: bits) = true := by
  rw [isAddressBlock, cutAt_eq_some_iff.mpr ⟨has.not_mem (by decide), rfl⟩]
  dsimp only
  rw [read]
  rw [Bool.or_eq_true, Bool.and_eq_true, Bool.and_eq_true, decide_eq_true_eq, decide_eq_true_eq]
  cases has with
  | v4 is => exact .inl ⟨is, Int.ofNat_le.mpr within⟩
  | v6 is => exact .inr ⟨is, Int.ofNat_le.mpr within⟩

/-- What is accepted as a block is one with a plus or one without. -/
theorem isAddressBlock_iff {cs : List Char} :
    isAddressBlock cs = true ↔ IsBlock [] cs ∨ IsBlock ['+'] cs := by
  constructor
  · intro accepted
    rw [isAddressBlock] at accepted
    split at accepted
    · next address bits cut =>
      split at accepted
      · next n read =>
        obtain ⟨digits, areDigits, rfl, spelled⟩ := readInteger_unsigned read
        obtain ⟨width, has, within⟩ :
            ∃ width, HasWidth address width ∧ Nat.ofDigitChars 10 digits 0 ≤ width := by
          rw [Bool.or_eq_true, Bool.and_eq_true, Bool.and_eq_true, decide_eq_true_eq,
            decide_eq_true_eq] at accepted
          rcases accepted with ⟨v4, within⟩ | ⟨v6, within⟩
          · exact ⟨32, .v4 v4, by omega⟩
          · exact ⟨128, .v6 v6, by omega⟩
        obtain ⟨-, rfl⟩ := cutAt_eq_some_iff.mp cut
        rcases spelled with rfl | rfl
        · exact .inl ⟨address, width, _, has, areDigits, within, rfl⟩
        · exact .inr ⟨address, width, _, has, areDigits, within, rfl⟩
      · cases accepted
    · cases accepted
  · rintro (⟨address, width, digits, has, areDigits, within, rfl⟩ |
      ⟨address, width, digits, has, areDigits, within, rfl⟩)
    · exact isAddressBlock_of_read has (readInteger_eq_some_iff.mpr (.plain areDigits)) within
    · exact isAddressBlock_of_read has (readInteger_eq_some_iff.mpr (.plus areDigits)) within

theorem IsBlock.not_mem_plus {cs : List Char} (block : IsBlock [] cs) : '+' ∉ cs := by
  obtain ⟨address, width, digits, has, areDigits, -, rfl⟩ := block
  simp only [List.nil_append, List.mem_append, List.mem_cons, not_or]
  exact ⟨has.not_mem (by decide), by decide, fun mem => absurd (areDigits.digit _ mem) (by decide)⟩

theorem IsBlock.mem_plus {cs : List Char} (block : IsBlock ['+'] cs) : '+' ∈ cs := by
  obtain ⟨address, width, digits, -, -, -, rfl⟩ := block
  simp

/-- The blocks without a plus are what is accepted and has none. -/
theorem isBlock_iff {cs : List Char} :
    IsBlock [] cs ↔ isAddressBlock cs = true ∧ '+' ∉ cs := by
  rw [isAddressBlock_iff]
  constructor
  · exact fun block => ⟨.inl block, block.not_mem_plus⟩
  · rintro ⟨block | block, none⟩
    · exact block
    · exact (none block.mem_plus).elim

end RecordRules

import RecordRules.Text.Blank
import RecordRules.Text.Pieces

/-!
# Parts of a text

Where a text is divided: what is taken from its front ends where the rest has no more of it
(`span_append`), it is cut at the first separator (`cutAt_eq_some_iff`), and what is no separator
stands in a piece (`mem_piecesAt`).

Trimming takes away blanks in front and at the end and nothing else (`exists_trimBlanks`), and all
of them if the text between them has none (`trimBlanks_append`).
-/

namespace RecordRules

/-- What has a property is taken from the front, if the rest does not go on with it. -/
theorem span_append {p : Char → Bool} {front rest : List Char} (all : ∀ c ∈ front, p c = true)
    (ends : ∀ c ∈ rest.head?, p c = false) :
    (front ++ rest).takeWhile p = front ∧ (front ++ rest).dropWhile p = rest := by
  rw [List.takeWhile_append_of_pos all, List.dropWhile_append_of_pos all]
  cases rest with
  | nil => exact ⟨List.append_nil _, rfl⟩
  | cons c rest =>
    have stops : ¬ p c = true := by simp [ends c rfl]
    rw [List.takeWhile_cons_of_neg stops, List.dropWhile_cons_of_neg stops]
    exact ⟨List.append_nil _, rfl⟩

theorem of_mem_takeWhile {p : Char → Bool} {cs : List Char} {c : Char} (mem : c ∈ cs.takeWhile p) :
    p c = true :=
  List.all_eq_true.mp List.all_takeWhile c mem

/-- A text is cut at its first separator. -/
theorem cutAt_eq_some_iff {separator : Char} {cs front back : List Char} :
    cutAt separator cs = some (front, back) ↔
      separator ∉ front ∧ cs = front ++ separator :: back := by
  constructor
  · intro cut
    have whole := List.takeWhile_append_dropWhile (p := (· ≠ separator)) (l := cs)
    have head := List.head?_dropWhile_not (· ≠ separator) cs
    rw [cutAt] at cut
    split at cut
    · cases cut
    · next c after rest =>
      rw [rest] at whole head
      cases cut
      have here : c = separator := by simpa using head
      subst here
      exact ⟨fun mem => of_decide_eq_true (of_mem_takeWhile mem) rfl, whole.symm⟩
  · rintro ⟨none_before, rfl⟩
    have others : ∀ c ∈ front, decide (c ≠ separator) = true := fun c mem =>
      decide_eq_true fun same => none_before (same ▸ mem)
    have stops : ∀ c ∈ (separator :: back).head?, decide (c ≠ separator) = false := by simp
    obtain ⟨taken, dropped⟩ := span_append others stops
    rw [cutAt, taken, dropped]

/-- A character is a separator or stands in a piece. -/
theorem mem_piecesAt {separator c : Char} {cs : List Char} (mem : c ∈ cs) :
    c = separator ∨ ∃ piece ∈ piecesAt separator cs, c ∈ piece := by
  induction cs with
  | nil => cases mem
  | cons d cs ih =>
    rw [piecesAt]
    cases pieces : piecesAt separator cs with
    | nil =>
      rw [pieces] at ih
      rcases List.mem_cons.mp mem with rfl | mem
      · exact .inr ⟨[c], List.mem_singleton.mpr rfl, List.mem_singleton.mpr rfl⟩
      · exact (ih mem).imp_right fun ⟨_, nowhere, _⟩ => nomatch nowhere
    | cons piece pieces' =>
      rw [pieces] at ih
      dsimp only
      split
      · next separates =>
        rcases List.mem_cons.mp mem with rfl | mem
        · exact .inl separates
        · exact (ih mem).imp_right fun ⟨p, there, within⟩ =>
            ⟨p, List.mem_cons_of_mem _ there, within⟩
      · rcases List.mem_cons.mp mem with rfl | mem
        · exact .inr ⟨c :: piece, List.mem_cons_self, List.mem_cons_self⟩
        · refine (ih mem).imp_right fun ⟨p, there, within⟩ => ?_
          rcases List.mem_cons.mp there with rfl | there
          · exact ⟨d :: p, List.mem_cons_self, List.mem_cons_of_mem _ within⟩
          · exact ⟨p, List.mem_cons_of_mem _ there, within⟩

theorem piecesAt_of_not_mem {separator : Char} {cs : List Char} (none : separator ∉ cs) :
    piecesAt separator cs = [cs] := by
  induction cs with
  | nil => rfl
  | cons c cs ih =>
    rw [List.mem_cons, not_or] at none
    rw [piecesAt, ih none.2]
    exact if_neg (Ne.symm none.1)

/-! ## Blanks around a text -/

/-- What holds of all ten digits. -/
theorem of_isDigit {p : Char → Prop} (all : ∀ code ∈ List.range' 48 10, p (Char.ofNat code))
    {c : Char} (digit : c.isDigit = true) : p c := by
  have bounds : 48 ≤ c.toNat ∧ c.toNat ≤ 57 := by
    rw [Char.isDigit, Bool.and_eq_true, decide_eq_true_eq, decide_eq_true_eq] at digit
    exact digit
  have here := all c.toNat (by rw [List.mem_range'_1]; omega)
  rwa [Char.ofNat_toNat] at here

theorem not_blank_of_digit {c : Char} : c.isDigit = true → isBlank c = false :=
  of_isDigit (p := fun c => isBlank c = false) (by decide)

theorem dropBlanks_append {blanks cs : List Char} (allBlank : ∀ c ∈ blanks, isBlank c = true) :
    dropBlanks (blanks ++ cs) = dropBlanks cs := by
  rw [dropBlanks, List.dropWhile_append_of_pos allBlank, dropBlanks]

theorem dropBlanks_of_head {c : Char} (no_blank : isBlank c = false) (cs : List Char) :
    dropBlanks (c :: cs) = c :: cs := by
  rw [dropBlanks, List.dropWhile_cons_of_neg (by simp [no_blank])]

/-- All blanks at the front are dropped. -/
theorem not_blank_of_dropBlanks {c : Char} {cs rest : List Char} (is : dropBlanks cs = c :: rest) :
    isBlank c = false := by
  have head := List.head?_dropWhile_not isBlank cs
  rw [show cs.dropWhile isBlank = c :: rest from is] at head
  exact head

/-- Blanks at the front are all that is dropped. -/
theorem exists_dropBlanks (cs : List Char) :
    ∃ blanks, (∀ c ∈ blanks, isBlank c = true) ∧ cs = blanks ++ dropBlanks cs := by
  refine ⟨cs.takeWhile isBlank, fun c mem => ?_, List.takeWhile_append_dropWhile.symm⟩
  exact List.all_eq_true.mp List.all_takeWhile c mem

theorem exists_trimBlanks (cs : List Char) :
    ∃ before after, (∀ c ∈ before, isBlank c = true) ∧ (∀ c ∈ after, isBlank c = true) ∧
      cs = before ++ (trimBlanks cs ++ after) := by
  obtain ⟨before, blank, front⟩ := exists_dropBlanks cs
  obtain ⟨after, blank', back⟩ := exists_dropBlanks (dropBlanks cs).reverse
  refine ⟨before, after.reverse, blank, by simpa using blank', ?_⟩
  have whole := congrArg List.reverse back
  rw [List.reverse_reverse, List.reverse_append] at whole
  rw [trimBlanks, ← whole]
  exact front

/-- Blanks around a text without blanks are trimmed. -/
theorem trimBlanks_append {before text after : List Char}
    (before_blank : ∀ c ∈ before, isBlank c = true) (some : text ≠ [])
    (text_black : ∀ c ∈ text, isBlank c = false) (after_blank : ∀ c ∈ after, isBlank c = true) :
    trimBlanks (before ++ (text ++ after)) = text := by
  have stays : ∀ cs rest : List Char, cs ≠ [] → (∀ c ∈ cs, isBlank c = false) →
      dropBlanks (cs ++ rest) = cs ++ rest := by
    intro cs rest some black
    obtain ⟨c, cs, rfl⟩ := List.exists_cons_of_ne_nil some
    exact dropBlanks_of_head (black c List.mem_cons_self) _
  have back := stays text.reverse [] (by simpa using some) (by simpa using text_black)
  rw [List.append_nil] at back
  rw [trimBlanks, dropBlanks_append before_blank, stays text after some text_black,
    List.reverse_append, dropBlanks_append (by simpa using after_blank), back,
    List.reverse_reverse]

end RecordRules

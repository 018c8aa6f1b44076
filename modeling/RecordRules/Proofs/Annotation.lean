import RecordRules.Annotation.Field

/-!
# Entries of annotations

What holds of every entry that is read from an annotation.
-/

namespace RecordRules

theorem unquote_of_read? {cs : List Char} {pair : Pair} {n : Nat}
    (read : Pair.read? cs = some (pair, n)) : unquote pair.quoted = .ok pair.value := by
  simp only [Pair.read?] at read
  split at read
  · cases read
  · split at read
    · next body _ =>
      rcases Option.bind_eq_some_iff.mp read with ⟨k, -, read⟩
      cases unquoted : unquote (String.ofList ('"' :: body.take k)) with
      | error e => rw [unquoted] at read; cases read
      | ok value =>
        rw [unquoted] at read
        cases read
        exact unquoted
    · cases read

theorem unquote_of_next {scanner after : PairScanner} {pair : Pair}
    (next : scanner.next = (some pair, after)) : unquote pair.quoted = .ok pair.value := by
  rw [PairScanner.next] at next
  split at next
  · cases next
  · split at next
    · next read =>
      cases next
      exact unquote_of_read? read
    · cases next

/-! ## Steps -/

theorem next_of_done {scanner : PairScanner} (ended : scanner.done = true) :
    scanner.next = (none, scanner) := by
  rw [PairScanner.next, if_pos ended]

theorem next_of_read? {scanner : PairScanner} {pair : Pair} {n : Nat}
    (going : scanner.done = false) (read : Pair.read? scanner.rest = some (pair, n)) :
    scanner.next = (some pair, ⟨scanner.rest.drop n,
      scanner.consumed + byteLength (scanner.rest.take n), false⟩) := by
  rw [PairScanner.next, going, if_neg (by simp), read]

theorem next_of_read?_none {scanner : PairScanner} (going : scanner.done = false)
    (read : Pair.read? scanner.rest = none) :
    scanner.next = (none, ⟨scanner.rest, scanner.consumed, true⟩) := by
  rw [PairScanner.next, going, if_neg (by simp), read]

theorem collect_of_next {scanner after : PairScanner} {pair : Pair}
    (next : scanner.next = (some pair, after)) :
    scanner.collect = (pair :: after.collect.1, after.collect.2) := by
  rw [PairScanner.collect]
  split
  · next next' => cases next.symm.trans next'; rfl
  · next next' => cases next.symm.trans next'

theorem collect_of_none {scanner after : PairScanner} (next : scanner.next = (none, after)) :
    scanner.collect = ([], after) := by
  rw [PairScanner.collect]
  split
  · next next' => cases next.symm.trans next'
  · next next' => cases next.symm.trans next'; rfl

theorem unquote_of_mem_collect {scanner : PairScanner} {pair : Pair}
    (mem : pair ∈ scanner.collect.1) : unquote pair.quoted = .ok pair.value := by
  induction scanner using PairScanner.collect.induct with
  | case1 scanner first after next pairs final rest ih =>
    rw [collect_of_next next] at mem
    rcases List.mem_cons.mp mem with rfl | mem
    · exact unquote_of_next next
    · exact ih mem
  | case2 scanner after next =>
    rw [collect_of_none next] at mem
    cases mem

/-- The value of an entry is what its quoted text stands for. -/
theorem unquote_of_mem_annotationPairs {tag : String} {pair : Pair}
    (mem : pair ∈ annotationPairs tag) : unquote pair.quoted = .ok pair.value :=
  unquote_of_mem_collect mem

/-! ## Single entries -/

theorem annotationPairs_empty : annotationPairs "" = [] := by
  have next : (PairScanner.start "").next = (none, ⟨[], 0, true⟩) := rfl
  rw [annotationPairs, collect_of_none next]

/-- An annotation of a single entry. -/
theorem annotationPairs_single {tag : String} {pair : Pair}
    (read : Pair.read? tag.toList = some (pair, tag.toList.length)) :
    annotationPairs tag = [pair] := by
  have next : (PairScanner.start tag).next =
      (some pair, ⟨[], 0 + byteLength tag.toList, false⟩) := by
    rw [next_of_read? rfl read, PairScanner.start, List.drop_length, List.take_length]
  have ends : (PairScanner.mk [] (0 + byteLength tag.toList) false).next =
      (none, ⟨[], 0 + byteLength tag.toList, true⟩) := rfl
  rw [annotationPairs, collect_of_next next, collect_of_none ends]

/-! ## Entries in front of others -/

/-- Which entries are read depends on the text alone. -/
theorem collect_congr {scanner scanner' : PairScanner} (rest : scanner.rest = scanner'.rest)
    (done : scanner.done = scanner'.done) : scanner.collect.1 = scanner'.collect.1 := by
  induction scanner using PairScanner.collect.induct generalizing scanner' with
  | case1 scanner first after next pairs final collected ih =>
    have next' := next
    rw [PairScanner.next] at next'
    split at next'
    · cases next'
    · next going =>
      split at next'
      · next pair n read =>
        cases next'
        have same : scanner'.next = (some first, { scanner' with
            rest := scanner'.rest.drop n
            consumed := scanner'.consumed + byteLength (scanner'.rest.take n) }) := by
          rw [PairScanner.next, ← done, if_neg going, ← rest, read]
        rw [collect_of_next next, collect_of_next same]
        refine congrArg (List.cons first) (ih ?_ done)
        dsimp only
        rw [rest]
      · cases next'
  | case2 scanner after next =>
    have next' := next
    rw [PairScanner.next] at next'
    split at next'
    · next ended =>
      have same : scanner'.next = (none, scanner') := by
        rw [PairScanner.next, ← done, if_pos ended]
      rw [collect_of_none next, collect_of_none same]
    · next going =>
      split at next'
      · cases next'
      · next read =>
        have same : scanner'.next = (none, { scanner' with done := true }) := by
          rw [PairScanner.next, ← done, if_neg going, ← rest, read]
        rw [collect_of_none next, collect_of_none same]

/-- A space before an entry belongs to the entry. -/
theorem read?_space (cs : List Char) :
    Pair.read? (' ' :: cs) = (Pair.read? cs).map fun read => (read.1, read.2 + 1) := by
  simp only [Pair.read?, List.takeWhile_cons, List.dropWhile_cons, decide_true, if_true]
  split
  · rfl
  · split
    · next body _ =>
      cases closingQuote body with
      | none => rfl
      | some n =>
        dsimp only [Option.bind_some]
        cases unquote (String.ofList ('"' :: body.take n)) with
        | ok value =>
          dsimp only
          rw [Option.map_some, List.length_cons]
          congr 2
          omega
        | error _ => rfl
    · rfl

theorem collect_space (cs : List Char) :
    (PairScanner.mk (' ' :: cs) 0 false).collect.1 = (PairScanner.mk cs 0 false).collect.1 := by
  have spaced := read?_space cs
  cases read : Pair.read? cs with
  | none =>
    rw [read] at spaced
    have next : (PairScanner.mk cs 0 false).next = _ := next_of_read?_none rfl read
    have next' : (PairScanner.mk (' ' :: cs) 0 false).next = _ := next_of_read?_none rfl spaced
    rw [collect_of_none next, collect_of_none next']
  | some found =>
    obtain ⟨pair, n⟩ := found
    rw [read] at spaced
    have next : (PairScanner.mk cs 0 false).next = _ := next_of_read? rfl read
    have next' : (PairScanner.mk (' ' :: cs) 0 false).next = _ := next_of_read? rfl spaced
    rw [collect_of_next next, collect_of_next next']
    exact congrArg (List.cons pair) (collect_congr rfl rfl)

/-- An entry that is put before an annotation is followed by the entries of the annotation. -/
theorem annotationPairs_before {front tag : String} {pair : Pair}
    (read : Pair.read? (front.toList ++ ' ' :: tag.toList) = some (pair, front.toList.length)) :
    annotationPairs (front ++ " " ++ tag) = pair :: annotationPairs tag := by
  have text : (front ++ " " ++ tag).toList = front.toList ++ ' ' :: tag.toList := by
    simp [String.toList_append]
  have next : (PairScanner.start (front ++ " " ++ tag)).next =
      (some pair, ⟨' ' :: tag.toList, 0 + byteLength front.toList, false⟩) := by
    rw [next_of_read? rfl (by rw [PairScanner.start, text, read]), PairScanner.start, text,
      List.drop_left, List.take_left]
  rw [annotationPairs, collect_of_next next]
  have rest : (PairScanner.mk (' ' :: tag.toList) (0 + byteLength front.toList) false).collect.1 =
      (PairScanner.mk (' ' :: tag.toList) 0 false).collect.1 := collect_congr rfl rfl
  exact congrArg (List.cons pair) (rest.trans (collect_space tag.toList))

end RecordRules

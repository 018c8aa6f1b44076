import RecordRules.Declaration.Basic
import RecordRules.Proofs.Annotation.Scanning
import RecordRules.Proofs.Except
import RecordRules.Proofs.Text.Pieces

/-!
# Annotations put together

What a scan takes of an annotation is a row of whole entries.  Whatever is put behind that part,
even without a space, is scanned as if it stood alone (`annotationPairs_entries`).  So annotations
can be cut where a scan ends, and the parts of an annotation that a declared field collects from its
attributes keep their entries (`annotationPairs_intercalate`).
-/

namespace RecordRules

/-- How many bytes of an annotation the entries take that a scan reads. -/
def consumedBytes (text : String) : Nat :=
  (PairScanner.start text).collect.2.consumed

/-! ## Entries in front of a text -/

/-- The entries of a divided text and their bytes are what a scan gives. -/
theorem scan_of_dividesInto {text : String} {entries : List Entry} {rest : List Char}
    (divides : DividesInto text.toList entries rest) :
    annotationPairs text = entries.map Entry.pair ∧
      consumedBytes text = byteLength (entries.flatMap Entry.chars) := by
  have collected := collect_of_dividesInto divides 0
  rw [Nat.zero_add] at collected
  rw [annotationPairs, consumedBytes, PairScanner.start, collected]
  exact ⟨rfl, rfl⟩

/-- A scan of entries and some text gives the entries and what a scan of the text gives. -/
theorem annotationPairs_entries (entries : List Entry) (text : String) :
    annotationPairs (String.ofList (entries.flatMap Entry.chars) ++ text) =
        entries.map Entry.pair ++ annotationPairs text ∧
      consumedBytes (String.ofList (entries.flatMap Entry.chars) ++ text) =
        byteLength (entries.flatMap Entry.chars) + consumedBytes text := by
  obtain ⟨others, rest, whole, ends⟩ := exists_dividesInto text.toList
  obtain ⟨pairs, consumed⟩ := scan_of_dividesInto ⟨whole, ends⟩
  have divides : DividesInto (String.ofList (entries.flatMap Entry.chars) ++ text).toList
      (entries ++ others) rest := by
    refine ⟨?_, ends⟩
    rw [String.toList_append, String.toList_ofList, whole, List.flatMap_append, List.append_assoc]
  obtain ⟨pairs', consumed'⟩ := scan_of_dividesInto divides
  rw [pairs', consumed', pairs, consumed, List.map_append, List.flatMap_append,
    byteLength_append]
  exact ⟨rfl, rfl⟩

theorem consumedBytes_empty : consumedBytes "" = 0 := by
  have divides : DividesInto "".toList [] [] := ⟨rfl, not_beginsWithEntry_nil⟩
  exact (scan_of_dividesInto divides).2

/-! ## Annotations that are entries and nothing else -/

/-- A scan takes all of the text. -/
def OnlyEntries (text : String) : Prop :=
  consumedBytes text = byteLength text.toList

theorem OnlyEntries.exists_entries {text : String} (whole : OnlyEntries text) :
    ∃ entries : List Entry, text = String.ofList (entries.flatMap Entry.chars) := by
  obtain ⟨entries, rest, split, ends⟩ := exists_dividesInto text.toList
  have consumed := (scan_of_dividesInto ⟨split, ends⟩).2
  rw [whole, split, byteLength_append] at consumed
  obtain rfl : rest = [] := byteLength_eq_zero_iff.mp (by omega)
  rw [List.append_nil] at split
  exact ⟨entries, by rw [← split, String.ofList_toList]⟩

theorem annotationPairs_whole {text : String} (whole : OnlyEntries text) (other : String) :
    annotationPairs (text ++ other) = annotationPairs text ++ annotationPairs other := by
  obtain ⟨entries, rfl⟩ := whole.exists_entries
  have alone := (annotationPairs_entries entries "").1
  rw [String.append_empty, annotationPairs_empty, List.append_nil] at alone
  rw [(annotationPairs_entries entries other).1, alone]

theorem annotationPairs_space (text : String) :
    annotationPairs (" " ++ text) = annotationPairs text := by
  have spaced : (" " ++ text).toList = ' ' :: text.toList := String.toList_append
  rw [annotationPairs, annotationPairs, PairScanner.start, PairScanner.start, spaced]
  exact collect_space text.toList

/-- Annotations with spaces between them, all but the last of which are entries and nothing else,
have the entries of each of them. -/
theorem annotationPairs_intercalate {texts : List String}
    (whole : ∀ text ∈ texts.dropLast, OnlyEntries text) :
    annotationPairs (" ".intercalate texts) = texts.flatMap annotationPairs := by
  induction texts with
  | nil => exact annotationPairs_empty
  | cons text texts ih =>
    cases texts with
    | nil => rw [String.intercalate_singleton, List.flatMap_singleton]
    | cons next texts =>
      rw [List.dropLast_cons_cons, List.forall_mem_cons] at whole
      rw [String.intercalate_cons_cons, String.append_assoc, annotationPairs_whole whole.1,
        annotationPairs_space, ih whole.2, ← List.flatMap_cons]

/-- Empty annotations in between can be left out. -/
theorem annotationPairs_intercalate_filter {texts : List String}
    (whole : ∀ text ∈ texts.dropLast, OnlyEntries text) :
    annotationPairs (" ".intercalate (texts.filter (· ≠ ""))) = texts.flatMap annotationPairs := by
  have kept : ∀ text ∈ (texts.filter (· ≠ "")).dropLast, text ∈ texts.dropLast := by
    intro text mem
    rcases List.eq_nil_or_concat texts with rfl | ⟨front, last, rfl⟩
    · cases mem
    · rw [List.concat_eq_append, List.filter_append] at mem
      rw [List.concat_eq_append, List.dropLast_concat]
      by_cases empty : last = ""
      · rw [List.filter_cons_of_neg (by simp [empty]), List.filter_nil, List.append_nil] at mem
        exact List.mem_of_mem_filter (List.dropLast_subset _ mem)
      · rw [List.filter_cons_of_pos (by simp [empty]), List.filter_nil,
          List.dropLast_concat] at mem
        exact List.mem_of_mem_filter mem
  have empty : ∀ texts : List String,
      (texts.filter (· ≠ "")).flatMap annotationPairs = texts.flatMap annotationPairs := by
    intro texts
    induction texts with
    | nil => rfl
    | cons text texts ih =>
      rw [List.filter_cons, List.flatMap_cons, ← ih]
      split
      · rw [List.flatMap_cons]
      · next none =>
        obtain rfl : text = "" := by simpa using none
        rw [annotationPairs_empty, List.nil_append]
  rw [annotationPairs_intercalate fun text mem => whole text (kept text mem), empty]

/-! ## Blanks at the ends -/

/-- The text without blanks at its ends. -/
def trimmed (text : String) : String :=
  String.ofList (trimBlanks text.toList)

theorem Entry.getLast?_chars (e : Entry) : e.chars.getLast? = some '"' := by
  have split : e.chars =
      (List.replicate e.spaces ' ' ++ (e.name ++ ':' :: '"' :: e.body)) ++ ['"'] := by
    simp [chars]
  rw [split, List.getLast?_concat]

/-- The last character of an entry is a quote, so blanks do not complete one. -/
theorem not_beginsWithEntry_append {rest blanks : List Char} (ends : ¬ BeginsWithEntry rest)
    (blank : ∀ c ∈ blanks, isBlank c = true) : ¬ BeginsWithEntry (rest ++ blanks) := by
  rintro ⟨e, more, same⟩
  rcases List.append_eq_append_iff.mp same with ⟨behind, chars, split⟩ | ⟨behind, split, -⟩
  · rcases List.eq_nil_or_concat behind with rfl | ⟨others, last, rfl⟩
    · exact ends ⟨e, [], by rw [chars, List.append_nil, List.append_nil]⟩
    · have quote := e.getLast?_chars
      rw [chars, List.concat_eq_append, ← List.append_assoc, List.getLast?_concat,
        Option.some.injEq] at quote
      have mem : last ∈ blanks := by
        rw [split]
        simp
      rw [quote] at mem
      exact absurd (blank _ mem) (by decide)
  · exact ends ⟨e, behind, split⟩

theorem annotationPairs_spaces (spaces : List Char) (blank : ∀ c ∈ spaces, c = ' ')
    (text : String) : annotationPairs (String.ofList spaces ++ text) = annotationPairs text := by
  induction spaces with
  | nil => rw [String.ofList_nil, String.empty_append]
  | cons c spaces ih =>
    rw [List.forall_mem_cons] at blank
    obtain ⟨rfl, others⟩ := blank
    have split : String.ofList (' ' :: spaces) = " " ++ String.ofList spaces := by
      rw [← List.singleton_append, String.ofList_append]
    rw [split, String.append_assoc, annotationPairs_space, ih others]

theorem annotationPairs_blanks (text : String) {blanks : List Char}
    (blank : ∀ c ∈ blanks, isBlank c = true) :
    annotationPairs (text ++ String.ofList blanks) = annotationPairs text := by
  obtain ⟨entries, rest, whole, ends⟩ := exists_dividesInto text.toList
  have divides : DividesInto (text ++ String.ofList blanks).toList entries (rest ++ blanks) := by
    refine ⟨?_, not_beginsWithEntry_append ends blank⟩
    rw [String.toList_append, String.toList_ofList, whole, List.append_assoc]
  rw [(scan_of_dividesInto divides).1, (scan_of_dividesInto ⟨whole, ends⟩).1]

/-- Trimming changes the entries only if blanks other than spaces stand in front. -/
theorem annotationPairs_trimmed {text : String}
    (spaces : ∀ c ∈ text.toList.takeWhile isBlank, c = ' ') :
    annotationPairs (trimmed text) = annotationPairs text := by
  obtain ⟨before, after, blank, blank', split⟩ := exists_trimBlanks text.toList
  have spaces' : ∀ c ∈ before, c = ' ' := by
    intro c mem
    refine spaces c ?_
    rw [split, List.takeWhile_append_of_pos blank]
    exact List.mem_append_left _ mem
  have parts : text = String.ofList before ++ (trimmed text ++ String.ofList after) := by
    rw [trimmed, ← String.ofList_append, ← String.ofList_append, ← split, String.ofList_toList]
  conv => rhs; rw [parts]
  rw [annotationPairs_spaces before spaces', annotationPairs_blanks _ blank']

/-! ## Annotations of declared fields -/

namespace Declaration

/-- The texts of the annotation attributes among some attributes. -/
def tagTexts : List Attribute → List String
  | [] => []
  | .tag (.text value) :: rest => value :: tagTexts rest
  | _ :: rest => tagTexts rest

/-- The entries of a field on which an annotation attribute stands alone. -/
def entriesAlone (text : String) : List Pair :=
  annotationPairs (trimmed text)

/-- The parts of an annotation are the texts of the attributes that are not blank, trimmed. -/
theorem tagParts_eq {attributes : List Attribute} {parts : List (List Char)}
    (made : tagParts attributes = .ok parts) :
    parts.map String.ofList = ((tagTexts attributes).map trimmed).filter (· ≠ "") := by
  induction attributes using tagTexts.induct generalizing parts with
  | case1 =>
    cases made
    rfl
  | case2 value rest ih =>
    rw [tagParts] at made
    obtain ⟨others, made', same⟩ := bind_eq_ok_iff.mp made
    rw [tagTexts, List.map_cons, List.filter_cons, ← ih made']
    cases same
    cases blank : trimBlanks value.toList with
    | nil => simp [trimmed, blank]
    | cons c cs => simp [trimmed, blank]
  | case3 other rest no_text ih =>
    rw [tagTexts]
    · refine ih ?_
      cases other with
      | tag argument =>
        cases argument with
        | text value => exact absurd rfl (no_text value)
        | other => cases made
      | flags names => exact made
      | noFlags => exact made
      | unrelated => exact made
    · exact no_text

/-- If each attribute but the last is taken as a whole, a field has the entries of all of them. -/
theorem annotationPairs_tagOf {attributes : List Attribute} {tag : String}
    (made : tagOf attributes = .ok tag)
    (whole : ∀ text ∈ (tagTexts attributes).dropLast, OnlyEntries (trimmed text)) :
    annotationPairs tag = (tagTexts attributes).flatMap entriesAlone := by
  rw [tagOf] at made
  obtain ⟨parts, made', same⟩ := bind_eq_ok_iff.mp made
  cases same
  rw [tagParts_eq made', annotationPairs_intercalate_filter, List.flatMap_map]
  · rfl
  · rw [← List.map_dropLast, List.forall_mem_map]
    exact whole

/-- A described field is a declared one and has the annotation of its attributes. -/
theorem exists_declared {position : Nat} {fields : List FieldDeclaration}
    {described : List DescribedField} (made : describeFields position fields = .ok described)
    {field : DescribedField} (mem : field ∈ described) :
    ∃ (i : Nat) (declared : FieldDeclaration), fields[i]? = some declared ∧
      field.member = declared.name.getD (toString (position + i)) ∧
      tagOf declared.attributes = .ok field.info.tag := by
  induction fields generalizing position described with
  | nil =>
    cases made
    cases mem
  | cons first fields ih =>
    rw [describeFields] at made
    obtain ⟨names, flags, made⟩ := bind_eq_ok_iff.mp made
    have later {others : List DescribedField}
        (made : describeFields (position + 1) fields = .ok others) (mem : field ∈ others) :
        ∃ (i : Nat) (declared : FieldDeclaration), (first :: fields)[i]? = some declared ∧
          field.member = declared.name.getD (toString (position + i)) ∧
          tagOf declared.attributes = .ok field.info.tag := by
      obtain ⟨i, declared, at_, member, tag⟩ := ih made mem
      refine ⟨i + 1, declared, at_, ?_, tag⟩
      rw [member, Nat.add_assoc, Nat.add_comm 1 i]
    split at made
    · exact later made mem
    · obtain ⟨tag, annotated, made⟩ := bind_eq_ok_iff.mp made
      obtain ⟨others, made', same⟩ := bind_eq_ok_iff.mp made
      cases same
      rcases List.mem_cons.mp mem with rfl | mem
      · exact ⟨0, first, rfl, rfl, annotated⟩
      · exact later made' mem

theorem exists_declared_of_describe {d : Declaration} {description : Description}
    (made : d.describe = .ok description) {field : DescribedField}
    (mem : field ∈ description.fields) :
    ∃ (i : Nat) (declared : FieldDeclaration), d.fields[i]? = some declared ∧
      field.member = declared.name.getD (toString i) ∧
      tagOf declared.attributes = .ok field.info.tag := by
  rw [describe] at made
  obtain ⟨names, -, made⟩ := bind_eq_ok_iff.mp made
  split at made
  · cases made
  · obtain ⟨fields, described, made⟩ := bind_eq_ok_iff.mp made
    obtain ⟨bounded, -, same⟩ := bind_eq_ok_iff.mp made
    cases same
    obtain ⟨i, declared, at_, member, tag⟩ := exists_declared described mem
    rw [Nat.zero_add] at member
    exact ⟨i, declared, at_, member, tag⟩

/-- An annotation attribute that stands alone gives its text, without blanks at the ends. -/
theorem tagOf_text (text : String) : tagOf [.tag (.text text)] = .ok (trimmed text) := by
  cases blank : trimBlanks text.toList with
  | nil => simp [tagOf, tagParts, trimmed, blank, bind, Except.bind, pure, Except.pure]
  | cons c cs => simp [tagOf, tagParts, trimmed, blank, bind, Except.bind, pure, Except.pure]

end Declaration

/-! ## Scans compose -/

/-- The part of an annotation that a scan takes can be put before any other text: a scan then gives
the entries of the annotation and those of the text, and takes as many bytes as both scans.  So a
scan of that part alone gives the same entries and takes all of it.

A field of a described type is a declared one, and has the entries of its annotation attributes, in
order, each as if it stood alone on a field, if a scan takes each of them but the last as a whole,
blanks at the ends left out.  An attribute that stands alone has the entries of its text as it is,
if no blanks other than spaces stand in front. -/
theorem scans_compose :
    (∀ s : String, ∃ front rest, splitAtByte? (consumedBytes s) s.toList = some (front, rest) ∧
      (∀ t : String,
        annotationPairs (String.ofList front ++ t) = annotationPairs s ++ annotationPairs t ∧
        consumedBytes (String.ofList front ++ t) = consumedBytes s + consumedBytes t) ∧
      annotationPairs (String.ofList front) = annotationPairs s ∧
      consumedBytes (String.ofList front) = consumedBytes s) ∧
    (∀ d description, Declaration.describe d = .ok description → ∀ field ∈ description.fields,
      ∃ (i : Nat) (declared : FieldDeclaration), d.fields[i]? = some declared ∧
        field.member = declared.name.getD (toString i) ∧
        ((∀ text ∈ (Declaration.tagTexts declared.attributes).dropLast,
            OnlyEntries (trimmed text)) →
          annotationPairs field.info.tag =
            (Declaration.tagTexts declared.attributes).flatMap Declaration.entriesAlone)) ∧
    ∀ text : String,
      (Declaration.tagOf [.tag (.text text)]).map annotationPairs =
        .ok (Declaration.entriesAlone text) ∧
      ((∀ c ∈ text.toList.takeWhile isBlank, c = ' ') →
        Declaration.entriesAlone text = annotationPairs text) := by
  refine ⟨fun s => ?_, fun d description made field mem => ?_, fun text => ⟨?_, ?_⟩⟩
  · obtain ⟨entries, rest, whole, ends⟩ := exists_dividesInto s.toList
    obtain ⟨pairs, consumed⟩ := scan_of_dividesInto ⟨whole, ends⟩
    refine ⟨entries.flatMap Entry.chars, rest, splitAtByte?_eq_some_iff.mpr ⟨whole, consumed.symm⟩,
      fun t => ?_, ?_⟩
    · rw [pairs, consumed]
      exact annotationPairs_entries entries t
    · have alone := annotationPairs_entries entries ""
      rw [String.append_empty, annotationPairs_empty, List.append_nil, consumedBytes_empty,
        Nat.add_zero] at alone
      rw [pairs, consumed]
      exact alone
  · obtain ⟨i, declared, at_, member, tag⟩ := Declaration.exists_declared_of_describe made mem
    exact ⟨i, declared, at_, member, Declaration.annotationPairs_tagOf tag⟩
  · rw [Declaration.tagOf_text]
    rfl
  · exact annotationPairs_trimmed

/-- Two attributes with blanks at their ends and a third one between them; the last one is not taken
as a whole. -/
theorem scans_compose_of_attributes :
    let attributes : List Attribute :=
      [.tag (.text "a:\"1\"\n"), .flags [], .tag (.text "\tb:\"2\" x")]
    let d : Declaration := ⟨"R", .tuple, [], [], [⟨none, true, attributes⟩]⟩
    let info : FieldInfo := { name := "0", tag := "a:\"1\" b:\"2\" x" }
    d.describe = .ok ⟨"R", [⟨info, "0"⟩], false, []⟩ ∧
      (∀ text ∈ (Declaration.tagTexts attributes).dropLast, OnlyEntries (trimmed text)) ∧
      annotationPairs info.tag = [⟨"a", "\"1\"", "1"⟩, ⟨"b", "\"2\"", "2"⟩] := by
  intro attributes d info
  have described : d.describe = .ok ⟨"R", [⟨info, "0"⟩], false, []⟩ := by decide +kernel
  have whole : ∀ text ∈ (Declaration.tagTexts attributes).dropLast, OnlyEntries (trimmed text) := by
    rintro text (_ | ⟨_, ⟨⟩⟩)
    rw [OnlyEntries]
    decide +kernel
  obtain ⟨-, fields, -⟩ := scans_compose
  obtain ⟨i, declared, at_, -, entries⟩ := fields d _ described _ List.mem_cons_self
  obtain rfl : declared = ⟨none, true, attributes⟩ := by
    cases i with
    | zero => exact (Option.some.inj at_).symm
    | succ i => cases at_
  refine ⟨described, whole, (entries whole).trans ?_⟩
  decide +kernel

end RecordRules

import RecordRules.Format.Domain.Direction
import RecordRules.Format.Domain.Joiner
import RecordRules.Format.Domain.Mapping
import RecordRules.Format.Punycode
import RecordRules.Text.Composed

/-!
# The labels of domain names

A name consists of labels with points between them.  It is brought into a normal form, in
which capitals, wide characters and characters that do not count are gone, and letters
are joined with their marks; that form is what the rules are about.  A label that starts
with `xn--` is a label of another script, written in Punycode: the label it stands for
must be in its normal form and obey the same rules.
-/

namespace RecordRules

namespace Domain

/-- The ASCII characters that no name may hold. -/
def isForbidden (c : Char) : Bool :=
  c ≤ ' ' || c == '\x7f' || "%#/:<>?@[\\]^|".toList.contains c

/-- The normal form of a text in a name, if every character may be there. -/
def normal (cs : List Char) : Option (List Char) := do
  let form := Text.composed (← cs.mapM mapped?).flatten
  if form.any isForbidden then none else some form

/-- All characters are ASCII. -/
def isAscii (cs : List Char) : Bool :=
  cs.all (· < '\x80')

/-- The greatest length of a label with other characters than ASCII. -/
def greatestLength : Nat := 1000

/-- The greatest length of what follows `xn--`. -/
def greatestWrittenLength : Nat := 2000

/-- A label in normal form may stand in a name, as far as its own characters go. -/
def isLabel (label : List Char) : Bool :=
  isAscii label ||
    (!(label.head?).any isMark && joinersFit [] label && label.length ≤ greatestLength)

/-- The label in the script it is for, if it may stand in a name. -/
def readable? (label : List Char) : Option (List Char) :=
  match label with
  | 'x' :: 'n' :: '-' :: '-' :: written => do
    if written.length ≤ greatestWrittenLength then
      let label ← Punycode.decode written
      if !isAscii label && normal label == some label && isLabel label then some label else none
    else none
  | label => if isLabel label then some label else none

/-- The labels can stand together.  Where one has text from right to left, all must have a
direction. -/
def areLabels (labels : List (List Char)) : Bool :=
  match labels.mapM readable? with
  | some labels => !labels.any turns || labels.all isDirected
  | none => false

end Domain

end RecordRules

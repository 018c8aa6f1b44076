import RecordRules.Format.Address

/-!
# Mail addresses

A mailbox name, an at sign and a domain.  The mailbox is a run of letters, digits and
certain marks.  The domain consists of labels of up to 63 letters, digits and inner
hyphens.
-/

namespace RecordRules

/-- A character of a mailbox name. -/
def isMailboxChar (c : Char) : Bool :=
  c.isAlphanum || ".!#$%&'*+/=?^_`\x7b|\x7d~-".toList.contains c

/-- A label of a domain. -/
def isDomainLabel (cs : List Char) : Bool :=
  cs.length ≤ 63 && (cs.head?).any Char.isAlphanum && (cs.getLast?).any Char.isAlphanum &&
    cs.all fun c => c.isAlphanum || c == '-'

/-- A mail address. -/
def isMailAddress (cs : List Char) : Bool :=
  match cutAt '@' cs with
  | some (mailbox, domain) =>
    !mailbox.isEmpty && mailbox.all isMailboxChar && (piecesAt '.' domain).all isDomainLabel
  | none => false

end RecordRules

import RecordRules.Format.Domain

/-!
# Web addresses with a host

An address of the web starts with a scheme.  After most of the well-known schemes a host
must follow, whatever slashes there are; after any other scheme a host follows two
slashes.  A file may be on a host, unless the path starts with a drive letter.  Only
whether the address is well formed and has a host is decided here.
-/

namespace RecordRules

namespace Url

/-- The sort of a scheme. -/
inductive Scheme where
  | file
  /-- A scheme whose addresses always have a host. -/
  | hosted
  | other
deriving DecidableEq, Repr

/-- The sort of a scheme with a name. -/
def Scheme.ofName (name : String) : Scheme :=
  if name = "file" then file
  else if name ∈ ["http", "https", "ws", "wss", "ftp"] then hosted
  else other

/-- The character separates parts of an address under this sort of scheme. -/
def isSlash (scheme : Scheme) (c : Char) : Bool :=
  c == '/' || (c == '\\' && scheme ≠ .other)

/-- The character ends the part of an address that names a host. -/
def endsHost (scheme : Scheme) (c : Char) : Bool :=
  isSlash scheme c || c == '?' || c == '#'

/-- The address without controls and blanks at its ends, tabs and line ends inside. -/
def cleaned (cs : List Char) : List Char :=
  let front := cs.dropWhile (· ≤ ' ')
  let text := (front.reverse.dropWhile (· ≤ ' ')).reverse
  text.filter fun c => c ≠ '\t' && c ≠ '\n' && c ≠ '\r'

/-- The scheme, and what follows its colon. -/
def splitScheme (cs : List Char) : Option (Scheme × List Char) :=
  let isSchemeChar (c : Char) : Bool := c.isAlphanum || c == '+' || c == '-' || c == '.'
  let name := cs.takeWhile isSchemeChar
  match cs.dropWhile isSchemeChar with
  | ':' :: rest =>
    if (name.head?).any Char.isAlpha then
      some (.ofName (String.ofList (name.map Char.toLower)), rest)
    else none
  | _ => none

/-- What follows the user of an authority, which ends with the last at sign in it. -/
def afterUser (scheme : Scheme) (cs : List Char) : List Char :=
  let authority := cs.takeWhile fun c => !endsHost scheme c
  let host := authority.reverse.takeWhile (· ≠ '@')
  cs.drop (authority.length - host.length)

/-- How many characters name the host: up to a colon outside brackets, or to the end of
the authority. -/
def hostLength (scheme : Scheme) (bracketed : Bool) : List Char → Nat
  | [] => 0
  | c :: cs =>
    if (c = ':' && !bracketed) || endsHost scheme c then 0
    else hostLength scheme (if c = '[' then true else if c = ']' then false else bracketed) cs + 1

/-- What follows the host is a colon and a number of sixteen bits, which may be missing, if
anything, and then the end or a path. -/
def isNumberThenPath : List Char → Bool
  | ':' :: cs =>
    let rest := cs.dropWhile Char.isDigit
    readDigits (cs.takeWhile Char.isDigit) 0 ≤ 65535 &&
      (rest.head?).all fun c => c == '/' || c == '\\' || c == '?' || c == '#'
  | _ => true

/-- A host without rules of the web, as after schemes that are not well known. -/
def isOpaqueHost (cs : List Char) : Bool :=
  !cs.isEmpty &&
    cs.all fun c => c ≠ '\x00' && !"\t\n\r #/:<>?@[\\]^|".toList.contains c

/-- A host in brackets, or one of the web or another kind. -/
def isHost (scheme : Scheme) : List Char → Bool
  | '[' :: cs => cs.getLast? = some ']' && isIpv6Address cs.dropLast
  | cs => if scheme = .other then isOpaqueHost cs else isWebHost cs

/-- A host follows, perhaps after a user. -/
def hasAuthority (scheme : Scheme) (cs : List Char) : Bool :=
  let cs := afterUser scheme cs
  let n := hostLength scheme false cs
  0 < n && isHost scheme (cs.take n) && isNumberThenPath (cs.drop n)

/-- The segment of a path is a drive letter. -/
def isDriveLetter : List Char → Bool
  | [c, d] => c.isAlpha && (d = ':' || d = '|')
  | _ => false

/-- The segment stays where it is. -/
def isSingleDot (cs : List Char) : Bool :=
  String.ofList (cs.map Char.toLower) ∈ [".", "%2e"]

/-- The segment goes back by one. -/
def isDoubleDot (cs : List Char) : Bool :=
  String.ofList (cs.map Char.toLower) ∈ ["..", ".%2e", "%2e.", "%2e%2e"]

/-- Some segment of a path becomes its first and is a drive letter. -/
def startsWithDrive : Nat → List (List Char) → Bool
  | _, [] => false
  | depth, segment :: segments =>
    if isDoubleDot segment then startsWithDrive (depth - 1) segments
    else if isSingleDot segment then startsWithDrive depth segments
    else (depth = 0 && isDriveLetter segment) || startsWithDrive (depth + 1) segments

/-- The segments of the path at the front of a text. -/
def pathSegments (cs : List Char) : List (List Char) :=
  let path := cs.takeWhile fun c => c ≠ '?' && c ≠ '#'
  (piecesAt '/' (path.map fun c => if c = '\\' then '/' else c)).drop 1

/-- A file on a host. -/
def hasFileHost : List Char → Bool
  | a :: b :: cs =>
    if isSlash .file a && isSlash .file b then
      let host := cs.takeWhile fun c => !endsHost .file c
      let isLocal := (Domain.decoded (Domain.bytesOf host)).bind Domain.normal ==
        some "localhost".toList
      !host.isEmpty && !isDriveLetter host && isHost .file host && !isLocal &&
        !startsWithDrive 0 (pathSegments (cs.drop host.length))
    else false
  | _ => false

end Url

/-- A web address that has a host. -/
def isUrlWithHost (cs : List Char) : Bool :=
  match Url.splitScheme (Url.cleaned cs) with
  | some (.hosted, rest) =>
    Url.hasAuthority .hosted (rest.dropWhile fun c => c = '/' || c = '\\')
  | some (.file, rest) => Url.hasFileHost rest
  | some (.other, rest) =>
    match rest with
    | '/' :: '/' :: rest => Url.hasAuthority .other rest
    | _ => false
  | none => false

end RecordRules

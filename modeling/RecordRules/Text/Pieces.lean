/-!
# Pieces of a text

A separator divides a text into pieces.
-/

namespace RecordRules

/-- The pieces of a text between separators; there is always one more piece than there
are separators. -/
def piecesAt (separator : Char) : List Char → List (List Char)
  | [] => [[]]
  | c :: cs =>
    match piecesAt separator cs with
    | [] => [[c]]
    | piece :: pieces => if c = separator then [] :: piece :: pieces else (c :: piece) :: pieces

/-- What stands before and after the first separator. -/
def cutAt (separator : Char) (cs : List Char) : Option (List Char × List Char) :=
  match cs.dropWhile (· ≠ separator) with
  | [] => none
  | _ :: after => some (cs.takeWhile (· ≠ separator), after)

/-- What stands before and after the first place of a piece that is not empty. -/
def cutAtPiece (piece : List Char) : List Char → Option (List Char × List Char)
  | [] => none
  | c :: cs =>
    if piece.isPrefixOf (c :: cs) then some ([], (c :: cs).drop piece.length)
    else (cutAtPiece piece cs).map fun (before, after) => (c :: before, after)

end RecordRules

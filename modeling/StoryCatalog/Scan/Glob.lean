import StoryCatalog.Scan.Wildcard

/-!
# Globs

A glob is compared with a whole relative path. A star stands for any text, slashes included, a
question mark for one character, and brackets for one character of a set. A bracket that is never
closed stands for itself.
-/

namespace StoryCatalog

namespace Glob

/-- The pieces of a glob, after leaving out this many characters of it. -/
def piecesAfter : Nat → Text → List Piece
  | _, [] => []
  | skipped + 1, _ :: rest => piecesAfter skipped rest
  | 0, c :: rest =>
      if c = 0x2A then .run .all :: piecesAfter 0 rest
      else if c = 0x3F then .one .all :: piecesAfter 0 rest
      else if c = 0x5B then
        match CharSet.body? rest with
        | some body => .one (.ofBody body) :: piecesAfter (body.length + 1) rest
        | none => .one (.single c) :: piecesAfter 0 rest
      else .one (.single c) :: piecesAfter 0 rest

/-- The pieces of a glob. -/
def pieces (glob : Text) : List Piece :=
  piecesAfter 0 glob

end Glob

/-- A glob matches a text. -/
def globMatches (glob t : Text) : Bool :=
  Wildcard.matchWhole (Glob.pieces glob) t

end StoryCatalog

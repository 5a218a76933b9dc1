import StoryCatalog.Text.Basic

/-!
# Wildcards

Patterns of file names are made of pieces: one character of a set, a run of such characters, or any
number of whole folders. A pattern is compared with all tails of a text at once, from its last piece
to its first, so the work grows with the product of both lengths.
-/

namespace StoryCatalog

/-- A set of characters: those in one of the ranges, or those in none of them. -/
structure CharSet where
  negated : Bool
  ranges : List (CodePoint × CodePoint)
deriving DecidableEq, Repr

namespace CharSet

/-- The set holds a character. -/
def contains (set : CharSet) (c : CodePoint) : Bool :=
  (set.ranges.any fun range => range.1.val ≤ c.val && c.val ≤ range.2.val) != set.negated

/-- Every character. -/
def all : CharSet := ⟨true, []⟩

/-- A single character. -/
def single (c : CodePoint) : CharSet := ⟨false, [(c, c)]⟩

/-- Every character but one. -/
def allBut (c : CodePoint) : CharSet := ⟨true, [(c, c)]⟩

/-- The ranges that the text between two brackets lists: single characters, and two characters with
a hyphen between them. -/
def rangesOf : Text → List (CodePoint × CodePoint)
  | [] => []
  | [c] => [(c, c)]
  | [c, d] => [(c, c), (d, d)]
  | c :: hyphen :: last :: more =>
      if hyphen = 0x2D then (c, last) :: rangesOf more
      else (c, c) :: rangesOf (hyphen :: last :: more)

/-- The set that the text between two brackets stands for. A leading `!` negates it. -/
def ofBody : Text → CharSet
  | 0x21 :: rest => ⟨true, rangesOf rest⟩
  | body => ⟨false, rangesOf body⟩

/-- The text between an opening bracket, which has been passed, and its closing one. A closing
bracket right at the front, or behind a leading `!`, belongs to the text. -/
def body? (t : Text) : Option Text :=
  let start := match t with
    | 0x21 :: 0x5D :: _ => 2
    | 0x21 :: _ => 1
    | 0x5D :: _ => 1
    | _ => 0
  let inner := (t.drop start).takeWhile (· ≠ 0x5D)
  if start + inner.length < t.length then some (t.take (start + inner.length)) else none

end CharSet

/-- A piece of a pattern. -/
inductive Piece where
  /-- One character of the set. -/
  | one (set : CharSet)
  /-- Any number of characters of the set. -/
  | run (set : CharSet)
  /-- Nothing, or any text that ends with a slash. -/
  | folders
deriving DecidableEq, Repr

namespace Wildcard

/-- Whether a condition holds of each tail of a text, the whole text first and the empty one
last. -/
def tails (holds : Text → Bool) : Text → List Bool
  | [] => [holds []]
  | c :: rest => holds (c :: rest) :: tails holds rest

/-- Which tails of a text are one character of the set and then a tail marked in `next`. -/
def oneTails (set : CharSet) : Text → List Bool → List Bool
  | [], _ => [false]
  | c :: rest, next => (set.contains c && next.tail.headD false) :: oneTails set rest next.tail

/-- Which tails of a text are a run of characters of the set and then a tail marked in `next`. -/
def runTails (set : CharSet) : Text → List Bool → List Bool
  | [], next => [next.headD false]
  | c :: rest, next =>
      let later := runTails set rest next.tail
      (next.headD false || (set.contains c && later.headD false)) :: later

/-- Which tails of a text are a piece and then a tail marked in `next`. -/
def pieceTails (t : Text) (next : List Bool) : Piece → List Bool
  | .one set => oneTails set t next
  | .run set => runTails set t next
  | .folders =>
      List.zipWith (· || ·) next
        (runTails (.allBut CodePoint.newline) t (oneTails (.single 0x2F) t next))

/-- Which tails of a text are the pieces one after another and then a tail that is accepted. -/
def matchTails (accept : Text → Bool) (pieces : List Piece) (t : Text) : List Bool :=
  pieces.foldr (fun piece next => pieceTails t next piece) (tails accept t)

/-- The pieces make up the whole text. -/
def matchWhole (pieces : List Piece) (t : Text) : Bool :=
  (matchTails List.isEmpty pieces t).headD false

end Wildcard

end StoryCatalog

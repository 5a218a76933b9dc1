import StoryCatalog.Scan.Wildcard
import StoryCatalog.Text.Blank
import StoryCatalog.Text.LineEnd

/-!
# Ignore files

Each line of an ignore file is a rule about the paths of files below its directory. A rule with a
slash before its end is about the path from its start; any other may match from each slash on. A
rule that ends in a slash is about everything below a directory, any other about the whole rest of a
path. A `!` takes back what earlier rules ignore, so the last rule that matches decides.
-/

namespace StoryCatalog

/-- A rule of an ignore file. -/
structure IgnoreRule where
  /-- The rule takes files back. -/
  negated : Bool
  /-- The rule is about paths from their start. -/
  anchored : Bool
  /-- The rule is about directories. -/
  folder : Bool
  pieces : List Piece
deriving DecidableEq, Repr

/-- Why an ignore file cannot be used: it is no text, or one of its rules names nothing. -/
inductive IgnoreFault where
  | undecodable (error : Utf8.IllFormed)
  | emptyRule
deriving Repr

/-- The fault in words. -/
def IgnoreFault.message : IgnoreFault → String
  | .undecodable error => error.message
  | .emptyRule => "string index out of range"

namespace IgnoreRule

/-- Any number of characters without a slash. -/
def segment : Piece := .run (.allBut 0x2F)

/-- Any text on one line. -/
def anything : Piece := .run (.allBut CodePoint.newline)

/-- The pieces of a rule, after leaving out this many characters of it. -/
def piecesAfter : Nat → Text → Except IgnoreFault (List Piece)
  | _, [] => .ok []
  | skipped + 1, _ :: rest => piecesAfter skipped rest
  | 0, c :: rest =>
      if c = 0x2A then
        match rest with
        | 0x2A :: 0x2F :: _ => return .folders :: (← piecesAfter 2 rest)
        | 0x2A :: _ => return anything :: (← piecesAfter 1 rest)
        | _ => return segment :: (← piecesAfter 0 rest)
      else if c = 0x3F then return .one (.allBut 0x2F) :: (← piecesAfter 0 rest)
      else if c = 0x5B then
        match CharSet.body? rest with
        | none => return .one (.single c) :: (← piecesAfter 0 rest)
        | some body =>
            let inner := body.filter (· ≠ 0x2F)
            if inner.isEmpty then .error .emptyRule
            else return .one (.ofBody inner) :: (← piecesAfter (body.length + 1) rest)
      else return .one (.single c) :: (← piecesAfter 0 rest)

/-- Two stars or more are a component of their own only between slashes or at the ends of a rule;
elsewhere they are as good as one. `atStart` says that a component starts here. -/
def collapseStars (atStart : Bool) : Text → Text
  | [] => []
  | [c] => [c]
  | c :: d :: rest =>
      if c = 0x2A && d = 0x2A then
        match rest with
        | [] => if atStart then [c, d] else [c]
        | e :: _ =>
            if e = 0x2A then collapseStars atStart (d :: rest)
            else if e = 0x2F && atStart then c :: d :: collapseStars true rest
            else c :: collapseStars false rest
      else c :: collapseStars (c = 0x2F) (d :: rest)

/-- Drop blanks at the end of a rule, which is given with its last character first. A backslash
keeps the blank behind it, and all blanks before that one stay. The first two characters of a rule
are never dropped. -/
def trimBlanks (dropping : Bool) : Text → Text
  | [] => []
  | [c] => [c]
  | [c, d] => [c, d]
  | c :: d :: e :: rest =>
      if c ≠ 0x20 then c :: d :: e :: rest
      else if d = 0x5C then c :: trimBlanks false (e :: rest)
      else if dropping then trimBlanks dropping (d :: e :: rest)
      else c :: trimBlanks dropping (d :: e :: rest)

/-- Drop a slash at the front. -/
def dropSlash : Text → Text
  | 0x2F :: rest => rest
  | t => t

/-- Drop a slash at the end. -/
def dropLastSlash (t : Text) : Text :=
  if t.getLast? = some 0x2F then t.dropLast else t

/-- Drop the backslash before a leading `#` or `!`. A backslash alone names nothing. -/
def dropEscape : Text → Except IgnoreFault Text
  | [0x5C] => .error .emptyRule
  | 0x5C :: 0x23 :: rest => .ok (0x23 :: rest)
  | 0x5C :: 0x21 :: rest => .ok (0x21 :: rest)
  | t => .ok t

/-- The rule that names these files. -/
def ofPattern (negated : Bool) (pattern : Text) : Except IgnoreFault IgnoreRule := do
  if pattern.isEmpty then throw .emptyRule
  let folder := pattern.getLast? = some 0x2F
  let slash := pattern.dropLast.contains 0x2F
  let path := dropSlash pattern
  let leadsAnywhere := path.take 2 = [0x2A, 0x2A]
  let path := dropLastSlash (dropSlash (if leadsAnywhere then path.drop 2 else path))
  if path.isEmpty then throw .emptyRule
  let path ← dropEscape path
  let path := (trimBlanks true path.reverse).reverse
  return ⟨negated, slash && !leadsAnywhere, folder, ← piecesAfter 0 path⟩

/-- The rule on a line. Blank lines, comments and a slash alone are no rules. -/
def ofLine (line : Text) : Except IgnoreFault (Option IgnoreRule) := do
  if line.all CodePoint.isBlank || line.head? = some 0x23 then return none
  let negated := line.head? = some 0x21
  let pattern := collapseStars true (if negated then line.drop 1 else line)
  if pattern.trimRight = [0x2F] then return none
  return some (← ofPattern negated pattern)

/-- At the end of a path, or before a newline at its end. -/
def atEnd (t : Text) : Bool :=
  t.isEmpty || t = [CodePoint.newline]

/-- What may stand behind the pieces of a rule. -/
def accepts (rule : IgnoreRule) (t : Text) : Bool :=
  if !rule.folder then atEnd t
  else if rule.negated then t.head? = some 0x2F && atEnd t.tail
  else atEnd t || t.head? = some 0x2F

/-- Where a rule without an anchor may start: at the front and behind each slash. -/
def starts (here : Bool) : Text → List Bool
  | [] => [here]
  | c :: rest => here :: starts (c = 0x2F) rest

/-- A rule matches a path. -/
def appliesTo (rule : IgnoreRule) (path : Text) : Bool :=
  let tails := Wildcard.matchTails rule.accepts rule.pieces path
  if rule.anchored then tails.headD false
  else (List.zipWith (· && ·) (starts true path) tails).any id

end IgnoreRule

/-- The rules of an ignore file. -/
def ignoreRules (content : Bytes) : Except IgnoreFault (List IgnoreRule) :=
  match readText content with
  | .error e => .error (.undecodable e)
  | .ok t => do return (← t.lines.mapM IgnoreRule.ofLine).reduceOption

/-- Rules ignore a path: the last one that matches it does not take it back. -/
def rulesIgnore (rules : List IgnoreRule) (path : Text) : Bool :=
  match rules.reverse.find? (·.appliesTo path) with
  | some rule => !rule.negated
  | none => false

end StoryCatalog

import StoryCatalog.Script.Concrete.Grammar
import StoryCatalog.Script.Concrete.Literal

/-!
# Tokens where a reading stands

Which token comes next in a script depends on what may come next. `scan` takes the state of a
reading and reads first the tokens that only the characters ahead decide: texts of templates and
markup, line ends that stand for a semicolon, and the question mark of a condition. Then it reads
what must follow without a gap, such as the pieces of a string, and then the longest token behind
the gap. A word is a name, unless it is a word of the grammar that may come next or is reserved.
-/

namespace StoryCatalog.Script.Concrete

open Grammar

/-- What was read: a comment of a type, a token, or a word of the grammar. -/
inductive LexemeKind where
  | comment (type : String)
  | token (number : Nat)
  | word (number : Nat) (isReserved : Bool)
deriving DecidableEq, Repr

/-- A token or comment and where it stands. -/
structure Lexeme where
  kind : LexemeKind
  start : Nat
  stop : Nat
deriving DecidableEq, Repr

/-! ## The tokens of the grammar -/

/-- The number of a token of the grammar. -/
def tokenNumber (name : String) : Nat :=
  (table.terminals.findIdx? fun terminal => terminal.name == name).getD 0

/-- The line end that stands for a semicolon. -/
def lineEndToken : Nat := tokenNumber "\n"

/-- The question mark of a condition. -/
def questionToken : Nat := tokenNumber "?"

/-- The operator that tells expressions from other places. -/
def orToken : Nat := tokenNumber "||"

/-- An escape in a string or template. -/
def escapeToken : Nat := tokenNumber "escape_sequence"

/-- The pattern of a regular expression. -/
def regExpToken : Nat := tokenNumber "regex_pattern"

/-- The text of a template. -/
def templateToken : Nat := tokenNumber "template_text"

/-- A text in markup. -/
def markupTextToken : Nat := tokenNumber "jsx_text"

/-- The name of a word of the grammar. -/
def isWordName (name : String) : Bool :=
  name != "" && name.toList.all fun c => 'a' ≤ c && c ≤ 'z'

/-- The marks and words of the grammar, with their numbers. -/
def marksAndWords : List (String × Nat) :=
  table.terminals.toList.zipIdx.filterMap fun (terminal, number) =>
    if terminal.isNode then none else some (terminal.name, number)

/-- The words of the grammar by their letters, with their numbers and whether they are reserved. -/
def wordTokens : Std.HashMap String (Nat × Bool) :=
  Std.HashMap.ofList <| marksAndWords.filterMap fun (name, number) =>
    if isWordName name then some (name, (number, reservedWords.contains name)) else none

/-- The marks of the grammar that are read as they are written. -/
def markTokens : List (List Char × Nat) :=
  marksAndWords.filterMap fun (name, number) =>
    if isWordName name || ["", "\n", "?", "static get"].contains name then none
    else some (name.toList, number)

/-- A kind of token: its number, and the index behind a token of the kind at an index. -/
structure TokenShape where
  number : Nat
  stop? : Array Char → Nat → Option Nat

/-- The tokens that follow what is before them without a gap. -/
def attachedTokens : List TokenShape := [
  ⟨tokenNumber "double_quoted", quotedEnd? '"'⟩,
  ⟨tokenNumber "single_quoted", quotedEnd? '\''⟩,
  ⟨tokenNumber "double_quoted_attribute", fun source index =>
    let stop := attributeTextEnd '"' source (source.size + 1) index
    if index < stop then some stop else none⟩,
  ⟨tokenNumber "single_quoted_attribute", fun source index =>
    let stop := attributeTextEnd '\'' source (source.size + 1) index
    if index < stop then some stop else none⟩,
  ⟨escapeToken, escapeEnd?⟩,
  ⟨regExpToken, fun source index =>
    if charAt source index == '/' then none
    else regExpEnd? source (source.size + 1) false index⟩,
  ⟨tokenNumber "regex_flags", runEnd? fun c => 'a' ≤ c && c ≤ 'z'⟩]

/-- The tokens that may have a gap before them, other than marks and words. -/
def freeTokens : List TokenShape := [
  ⟨tokenNumber "private_property_identifier", fun source index =>
    let stop := wordEnd source (index + 1)
    if charAt source index == '#' && index + 1 < stop then some stop else none⟩,
  ⟨tokenNumber "number", fun source index =>
    let stop := numberEnd source index
    if index < stop then some stop else none⟩,
  ⟨tokenNumber "hash_bang_line", fun source index =>
    if hasAt source index ['#', '!'] then some (skipWhile (fun c => c != '\n') source index)
    else none⟩,
  ⟨tokenNumber "html_character_reference", characterReferenceEnd?⟩,
  ⟨tokenNumber "hyphenated", hyphenatedEnd?⟩,
  ⟨tokenNumber "static get", staticGetEnd?⟩]

/-! ## Scanning -/

/-- The lexeme that reaches farther, and the first one of two that reach equally far. -/
def Lexeme.longer (a b : Option Lexeme) : Option Lexeme :=
  match a, b with
  | none, b => b
  | a, none => a
  | some a, some b => if a.stop < b.stop then some b else some a

/-- The longest token of these kinds at an index that may come next in a state. -/
def longestOf (shapes : List TokenShape) (state : State) (source : Array Char) (index : Nat) :
    Option Lexeme :=
  shapes.foldl (fun longest shape =>
    if state.tokens.contains shape.number then
      Lexeme.longer longest
        ((shape.stop? source index).map fun stop => ⟨.token shape.number, index, stop⟩)
    else longest) none

/-- The longest mark at an index that may come next in a state. -/
def markAt (state : State) (source : Array Char) (index : Nat) : Option Lexeme :=
  markTokens.foldl (fun longest (mark, number) =>
    if hasAt source index mark && state.tokens.contains number then
      Lexeme.longer longest (some ⟨.token number, index, index + mark.length⟩)
    else longest) none

/-- The word at an index: a name, or a word of the grammar that may come next or is no name here. -/
def wordLexeme (state : State) (source : Array Char) (index : Nat) : Option Lexeme :=
  let stop := wordEnd source index
  if stop == index then none
  else
    let name : Lexeme := ⟨.token table.word, index, stop⟩
    match wordTokens[String.ofList (source.extract index stop).toList]? with
    | none => some name
    | some (number, isReserved) =>
        if state.tokens.contains number || (isReserved && state.words == .reserved) then
          some ⟨.word number isReserved, index, stop⟩
        else some name

/-- What the characters ahead decide alone: a token or comment. If it is nothing, the place may be
before any other token. -/
def scanAhead (state : State) (source : Array Char) (index : Nat) : Option Lexeme :=
  let may := state.tokens.contains
  let question (place : Nat) : Option Lexeme :=
    (questionEnd? source place).map fun stop => ⟨.token questionToken, stop - 1, stop⟩
  if may templateToken then
    if may lineEndToken then none
    else (templateEnd? source (source.size + 1) index).bind fun stop =>
      if index < stop then some ⟨.token templateToken, index, stop⟩ else none
  else
    let (stop, counts) :=
      if may markupTextToken then markupTextEnd source (source.size + 1) false false index
      else (index, false)
    if counts then some ⟨.token markupTextToken, index, stop⟩
    else if may lineEndToken then
      match lineEnd (may orToken) source (source.size + 2) stop false with
      | .holds => some ⟨.token lineEndToken, index, index⟩
      | .fails commented place =>
          if !commented && may questionToken && charAt source place == '?' then question place
          else none
    else if may questionToken then question stop
    else if may orToken || may escapeToken || may regExpToken then none
    else
      (legacyComment? source stop).map fun (start, stop) =>
        ⟨.comment "html_comment", start, stop⟩

/-- The token or comment behind the gap at an index. -/
def scanBehindGap (state : State) (source : Array Char) (index : Nat) : Option Lexeme :=
  let index := skipWhile isGap source index
  if source.size ≤ index then some ⟨.token 0, index, index⟩
  else
    let comment : Option Lexeme :=
      (commentEnd? source index).map fun stop => ⟨.comment "comment", index, stop⟩
    Lexeme.longer (markAt state source index) <| Lexeme.longer comment <|
      Lexeme.longer (longestOf freeTokens state source index) (wordLexeme state source index)

/-- The next token or comment at an index in a state. -/
def scan (state : State) (source : Array Char) (index : Nat) : Option Lexeme :=
  (scanAhead state source index).or <|
    (longestOf attachedTokens state source index).or (scanBehindGap state source index)

end StoryCatalog.Script.Concrete

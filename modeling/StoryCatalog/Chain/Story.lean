import StoryCatalog.Chain.Walk
import StoryCatalog.Location.LineIndex
import StoryCatalog.Location.PointTable

/-!
# Stories of a source text

The chains of a text laid out as a flat list of stories. The span of a story ends right behind the
name of the story method, so its column is moved back by the length of that name.
-/

namespace StoryCatalog

/-- A story of one source text. -/
structure Story where
  kind : Text
  story : Text
  position : Position
deriving DecidableEq, Repr

/-- What a chain declares: its kind, if it has one, and its stories. -/
structure Declaration where
  kind : Option NamedSpan
  stories : List NamedSpan
deriving Repr

/-- The declaration that a chain makes. -/
def Chain.Match.declaration {N : Type} (found : Chain.Match N) : Declaration :=
  ⟨some found.kind, found.stories⟩

/-- The story that a span declares under a kind. -/
def Story.ofSpan (pattern : Pattern) (resolve : Int → Except LocationError Position) (kind : Text)
    (declared : NamedSpan) : Except LocationError Story := do
  let position ← resolve declared.span.stop
  return ⟨kind, declared.name, position.line, position.column - pattern.method.length⟩

/-- The stories of one declaration. -/
def Declaration.flatten (pattern : Pattern) (resolve : Int → Except LocationError Position)
    (declaration : Declaration) : Except LocationError (List Story) :=
  match declaration.kind with
  | none => .ok []
  | some kind => declaration.stories.mapM (Story.ofSpan pattern resolve kind.name)

/-- The stories of all declarations, in order. -/
def flatten (pattern : Pattern) (resolve : Int → Except LocationError Position)
    (declarations : List Declaration) : Except LocationError (List Story) := do
  let parts ← declarations.mapM (Declaration.flatten pattern resolve)
  return parts.flatten

namespace View

variable {N : Type} (view : View N)

/-- The stories of a tree whose spans are character offsets of a text. -/
def storiesByOffset (pattern : Pattern) (source : Text) (root : N) :
    Except LocationError (List Story) :=
  flatten pattern (LineIndex.ofText source).resolve
    ((view.walk pattern root).found.map Chain.Match.declaration)

/-- The table of points that a walk over a tree fills: both ends of every node that it asked for
its span. -/
def pointTable (source : Bytes) (walk : Walk N) : PointTable :=
  walk.consulted.foldl (fun table node => table.recordSpan (view.span node)) (.empty source)

/-- The stories of a tree whose spans are byte offsets of the source. -/
def storiesByPoint (pattern : Pattern) (source : Bytes) (root : N) :
    Except LocationError (List Story) :=
  let walk := view.walk pattern root
  flatten pattern (view.pointTable source walk).resolve
    (walk.found.map Chain.Match.declaration)

end View

end StoryCatalog

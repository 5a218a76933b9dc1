import StoryCatalog.Text.Blank

/-!
# Story identifiers

A story is identified by the path of its file, its position there, and the normal forms of its two
names: `story:{path}@L{line}:C{column}:{kind}/{story}`.
-/

namespace StoryCatalog

/-- The identifier of a story. -/
def storyId (path : Text) (line column : Int) (kind story : Text) : Text :=
  "story:" ++ path ++ "@L" ++ Text.ofInt line ++ ":C" ++ Text.ofInt column ++ ":"
    ++ kind.normalize ++ "/" ++ story.normalize

end StoryCatalog

import StoryCatalog.Script.Concrete.Reader

/-!
# Concrete trees of whole scripts

`read` gives the concrete tree of a script. Only nodes that stand for rules of the grammar are in
it. A script that cannot be read gives a tree with an error node where the reading stopped.
-/

namespace StoryCatalog.Script.Concrete

open Grammar

/-- How many steps the readings of a script may take for each of its characters. -/
def stepsPerCharacter : Nat := 1000

/-- The concrete tree of a script. -/
def read (text : String) : Cst :=
  let script := IndexedText.ofString text
  let size := script.source.size
  match (readings script (stepsPerCharacter * (size + 2)) 0 [⟨0, 0⟩]).run .start with
  | (.ok root, _) => root
  | (.error index, _) =>
      script.node "program" none 0 size [script.node "ERROR" none index size []]

end StoryCatalog.Script.Concrete

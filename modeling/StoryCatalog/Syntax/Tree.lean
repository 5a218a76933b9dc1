import StoryCatalog.Syntax.View

/-!
# Abstract program trees

The tree that the recogniser's rules speak of, without the detail of any source reader.
-/

namespace StoryCatalog

/-- An abstract program tree. A callee or an object may be absent. -/
inductive Tree where
  | call (callee : Option Tree) (arguments : List Tree) (span : Span)
  | member (object : Option Tree) (property : Option Text) (span : Span)
  | identifier (name : Text) (span : Span)
  | string (value : Text) (span : Span)
  | other (children : List Tree) (span : Span)

namespace Tree

/-- The shape of a node. -/
def shape : Tree → Shape Tree
  | .call callee arguments _ => .call callee arguments
  | .member object property _ => .member object property
  | .identifier name _ => .identifier name
  | .string value _ => .string value
  | .other .. => .other

/-- The span of a node. -/
def span : Tree → Span
  | .call _ _ span | .member _ _ span | .identifier _ span | .string _ span | .other _ span => span

/-- The nodes right below a node. -/
def children : Tree → List Tree
  | .call callee arguments _ => callee.toList ++ arguments
  | .member object _ _ => object.toList
  | .identifier .. | .string .. => []
  | .other children _ => children

/-- The number of nodes of a tree. -/
def size : Tree → Nat
  | .call callee arguments _ => 1 + sizeOption callee + sizeList arguments
  | .member object _ _ => 1 + sizeOption object
  | .identifier .. | .string .. => 1
  | .other children _ => 1 + sizeList children
where
  /-- The number of nodes of a tree that may be absent. -/
  sizeOption : Option Tree → Nat
    | none => 0
    | some tree => size tree
  /-- The number of nodes of a list of trees. -/
  sizeList : List Tree → Nat
    | [] => 0
    | tree :: rest => size tree + sizeList rest

theorem sizeList_eq (trees : List Tree) : size.sizeList trees = sizeSum size trees := by
  induction trees with
  | nil => simp [size.sizeList]
  | cons tree rest ih => simp [size.sizeList, ih]

theorem sizeOption_eq (tree : Option Tree) :
    size.sizeOption tree = sizeSum size tree.toList := by
  cases tree <;> simp [size.sizeOption]

theorem children_lt (node : Tree) : sizeSum size node.children < node.size := by
  cases node <;>
    simp only [children, size, sizeList_eq, sizeOption_eq, sizeSum_append, sizeSum_nil] <;> omega

theorem parts_lt (node : Tree) : sizeSum size node.shape.parts < node.size := by
  cases node <;>
    simp only [shape, Shape.parts, size, sizeList_eq, sizeOption_eq, sizeSum_append,
      sizeSum_nil] <;>
    omega

/-- The view of abstract trees. -/
def view : View Tree where
  shape := shape
  children := children
  span := span
  size := size
  parts_lt := parts_lt
  children_lt := children_lt

end Tree

end StoryCatalog

import StoryCatalog.Syntax.Measure
import StoryCatalog.Text.Basic

/-!
# Views of a program tree

The recogniser and the walker look at a program tree through a `View`: the shape of a node, its
children and its span. Every kind of tree that a source reader produces supplies one, so that one
recogniser serves all of them. A view also measures its nodes, and each part that it hands out is
smaller than the node it belongs to; descent and walk end for that reason.
-/

namespace StoryCatalog

/-- Where a node starts and where it ends, in the offsets of the reader that made the tree. -/
structure Span where
  start : Int
  stop : Int
deriving DecidableEq, Repr

/-- What the recogniser distinguishes. A call has a callee and arguments; a member access that is
not computed has an object and the name of a property. -/
inductive Shape (N : Type) where
  | call (callee : Option N) (arguments : List N)
  | member (object : Option N) (property : Option Text)
  | identifier (name : Text)
  | string (value : Text)
  | other
deriving Repr

/-- The nodes that a shape mentions. -/
def Shape.parts {N : Type} : Shape N → List N
  | .call callee arguments => callee.toList ++ arguments
  | .member object _ => object.toList
  | .identifier _ | .string _ | .other => []

/-- The name of a shape in messages. -/
def Shape.name {N : Type} : Shape N → String
  | .call .. => "call"
  | .member .. => "member"
  | .identifier _ => "identifier"
  | .string _ => "string"
  | .other => "other"

/-- A way of looking at trees with nodes of type `N`. -/
structure View (N : Type) where
  shape : N → Shape N
  children : N → List N
  span : N → Span
  size : N → Nat
  parts_lt : ∀ node, sizeSum size (shape node).parts < size node
  children_lt : ∀ node, sizeSum size (children node) < size node

namespace View

variable {N : Type} (view : View N)

/-- The node is a call. -/
def isCall (node : N) : Bool :=
  match view.shape node with
  | .call .. => true
  | _ => false

/-- The arguments of a call. Other nodes have none. -/
def arguments (node : N) : List N :=
  match view.shape node with
  | .call _ arguments => arguments
  | _ => []

/-- The sizes of a list of nodes added up. -/
def total (nodes : List N) : Nat :=
  sizeSum view.size nodes

@[simp] theorem total_nil : view.total [] = 0 := rfl

@[simp] theorem total_cons (node : N) (rest : List N) :
    view.total (node :: rest) = view.size node + view.total rest := by
  simp [total]

@[simp] theorem total_append (first second : List N) :
    view.total (first ++ second) = view.total first + view.total second := by
  simp [total]

/-- A callee and the arguments together are smaller than their call. -/
theorem call_lt {node callee : N} {arguments : List N}
    (h : view.shape node = .call (some callee) arguments) :
    view.size callee + view.total arguments < view.size node := by
  have := view.parts_lt node
  simp only [h, Shape.parts, Option.toList_some, List.singleton_append, sizeSum_cons] at this
  exact this

/-- The arguments of a call are smaller than the call, whatever is called. -/
theorem arguments_lt {node : N} {callee : Option N} {arguments : List N}
    (h : view.shape node = .call callee arguments) :
    view.total arguments < view.size node := by
  have := view.parts_lt node
  simp only [h, Shape.parts, sizeSum_append] at this
  exact Nat.lt_of_le_of_lt (Nat.le_add_left _ _) this

/-- The object of a member access is smaller than the access. -/
theorem member_lt {node object : N} {property : Option Text}
    (h : view.shape node = .member (some object) property) :
    view.size object < view.size node := by
  have := view.parts_lt node
  simpa [h, Shape.parts] using this

end View

end StoryCatalog

import StoryCatalog.Location.PointTable
import StoryCatalog.Syntax.Escape
import StoryCatalog.Syntax.ParseError
import StoryCatalog.Syntax.View

/-!
# Concrete syntax trees

A concrete tree keeps every token of the source: a node has a type, the range of its bytes, and the
name of the field that it fills in its parent. Parentheses and comments are nodes, and faults of
the source are marked in the tree. The view looks through parentheses and passes over comments.
-/

namespace StoryCatalog

/-- A node of a concrete tree. A named node stands for a rule of the grammar, any other one for a
punctuation mark or keyword. A missing node was expected and is not there. -/
structure Cst where
  type : String
  start : Int
  stop : Int
  named : Bool
  missing : Bool
  field : Option String
  hasError : Bool
  children : List Cst

namespace Cst

/-- The node marks text that no rule covers. -/
def isError (node : Cst) : Bool :=
  node.type == "ERROR"

/-- A node whose error flag is as given, or else says whether the node or a child has a fault. -/
def make (type : String) (start stop : Int) (named missing : Bool) (field : Option String)
    (flag : Option Bool) (children : List Cst) : Cst :=
  { type, start, stop, named, missing, field, children
    hasError := flag.getD (type == "ERROR" || missing || children.any Cst.hasError) }

/-- The number of nodes of a tree. -/
def size : Cst → Nat
  | ⟨_, _, _, _, _, _, _, children⟩ => 1 + sizeList children
where
  /-- The number of nodes of a list of trees. -/
  sizeList : List Cst → Nat
    | [] => 0
    | node :: rest => size node + sizeList rest

theorem sizeList_eq (nodes : List Cst) : size.sizeList nodes = sizeSum size nodes := by
  induction nodes with
  | nil => simp [size.sizeList]
  | cons node rest ih => simp [size.sizeList, ih]

theorem size_eq (node : Cst) : node.size = 1 + sizeSum size node.children := by
  cases node
  simp [size, sizeList_eq]

/-- The children that stand for rules of the grammar. -/
def namedChildren (node : Cst) : List Cst :=
  node.children.filter Cst.named

/-- The first child that fills a field. -/
def fieldChild (node : Cst) (name : String) : Option Cst :=
  node.children.find? fun child => child.field == some name

/-- The named children other than comments. -/
def content (node : Cst) : List Cst :=
  node.namedChildren.filter fun child => child.type != "comment"

theorem size_content_lt (node : Cst) : sizeSum size node.content < node.size := by
  have h₁ := sizeSum_filter_le size Cst.named node.children
  have h₂ := sizeSum_filter_le size (fun child => child.type != "comment") node.namedChildren
  rw [size_eq]
  unfold content
  unfold namedChildren at h₂ ⊢
  omega

/-- The expression inside any number of parentheses. -/
def unwrap (node : Cst) : Cst :=
  if node.type == "parenthesized_expression" then
    match _h : node.content with
    | [inner] => unwrap inner
    | _ => node
  else node
termination_by node.size
decreasing_by
  have := node.size_content_lt
  simp only [_h, sizeSum_cons, sizeSum_nil] at this
  omega

theorem size_unwrap_le (node : Cst) : node.unwrap.size ≤ node.size := by
  fun_induction unwrap node with
  | case1 node htype inner h ih =>
      have := node.size_content_lt
      simp only [h, sizeSum_cons, sizeSum_nil] at this
      omega
  | case2 => exact Nat.le_refl _
  | case3 => exact Nat.le_refl _

theorem sum_unwrap_le (nodes : List Cst) :
    sizeSum size (nodes.map unwrap) ≤ sizeSum size nodes := by
  induction nodes with
  | nil => simp
  | cons node rest ih =>
      have := node.size_unwrap_le
      simp only [List.map_cons, sizeSum_cons]
      omega

/-- Two children that fill different fields are together no larger than all children. -/
theorem size_two_fields_le {nodes : List Cst} {first second : String} {a b : Cst}
    (hne : first ≠ second)
    (ha : (nodes.find? fun child => child.field == some first) = some a)
    (hb : (nodes.find? fun child => child.field == some second) = some b) :
    a.size + b.size ≤ sizeSum size nodes := by
  induction nodes with
  | nil => simp at ha
  | cons node rest ih =>
      simp only [List.find?_cons] at ha hb
      simp only [sizeSum_cons]
      split at ha <;> split at hb
      · simp_all
      · cases ha
        have := le_sizeSum_of_mem size (List.mem_of_find?_eq_some hb)
        omega
      · cases hb
        have := le_sizeSum_of_mem size (List.mem_of_find?_eq_some ha)
        omega
      · have := ih ha hb
        omega

/-- The source text of a node. -/
def text (source : Bytes) (node : Cst) : Text :=
  Utf8.decodeIgnoring (slice source node.start node.stop)

/-- The value of a string literal: its fragments as they stand and its escapes decoded. -/
def stringValue (source : Bytes) (node : Cst) : Text :=
  node.namedChildren.flatMap fun child =>
    if child.type == "string_fragment" then child.text source
    else if child.type == "escape_sequence" then Escape.decode (child.text source)
    else []

/-- The name of the property of a member access. -/
def propertyName (source : Bytes) (node : Cst) : Option Text :=
  match node.fieldChild "property" with
  | none => none
  | some property =>
      if property.type == "property_identifier" || property.type == "private_property_identifier"
      then some (property.text source)
      else none

/-- The shape of a node. A call whose arguments are a template is a tagged template and no call. -/
def shape (source : Bytes) (node : Cst) : Shape Cst :=
  if node.type == "call_expression" then
    match node.fieldChild "arguments" with
    | none => .other
    | some arguments =>
        if arguments.type == "arguments" then
          .call ((node.fieldChild "function").map unwrap) (arguments.content.map unwrap)
        else .other
  else if node.type == "member_expression" then
    .member ((node.fieldChild "object").map unwrap) (node.propertyName source)
  else if node.type == "identifier" then .identifier (node.text source)
  else if node.type == "string" then .string (node.stringValue source)
  else .other

theorem size_fieldChild_lt {node child : Cst} {name : String}
    (h : node.fieldChild name = some child) : child.size < node.size := by
  have := le_sizeSum_of_mem size (List.mem_of_find?_eq_some h)
  rw [size_eq node]
  omega

theorem parts_lt (source : Bytes) (node : Cst) :
    sizeSum size (node.shape source).parts < node.size := by
  have hpos : 0 < node.size := by rw [size_eq]; omega
  unfold shape
  split
  · split
    · simpa [Shape.parts] using hpos
    · rename_i arguments hargs
      split
      · have hcontent := arguments.size_content_lt
        have hunwrap := sum_unwrap_le arguments.content
        cases hf : node.fieldChild "function" with
        | none =>
            have := size_fieldChild_lt hargs
            simp only [Shape.parts, Option.map_none, Option.toList_none, List.nil_append]
            omega
        | some callee =>
            have htwo := size_two_fields_le (by decide) hf hargs
            have hcallee := callee.size_unwrap_le
            rw [size_eq node]
            simp only [Shape.parts, Option.map_some, Option.toList_some, List.singleton_append,
              sizeSum_cons]
            omega
      · simpa [Shape.parts] using hpos
  · split
    · cases hf : node.fieldChild "object" with
      | none => simpa [Shape.parts] using hpos
      | some object =>
          have := size_fieldChild_lt hf
          have := object.size_unwrap_le
          simp only [Shape.parts, Option.map_some, Option.toList_some, sizeSum_cons,
            sizeSum_nil]
          omega
    · split
      · simpa [Shape.parts] using hpos
      · split <;> simpa [Shape.parts] using hpos

theorem namedChildren_lt (node : Cst) : sizeSum size node.namedChildren < node.size := by
  have := sizeSum_filter_le size Cst.named node.children
  rw [size_eq]
  unfold namedChildren
  omega

/-- The view of concrete trees over a source. -/
def view (source : Bytes) : View Cst where
  shape := shape source
  children := namedChildren
  span := fun node => ⟨node.start, node.stop⟩
  size := size
  parts_lt := parts_lt source
  children_lt := namedChildren_lt

/-- The first faulty node in the order of the source. Subtrees without the error flag are not
searched. -/
def firstFault : Cst → Option Cst
  | node@⟨type, _, _, _, missing, _, hasError, children⟩ =>
      if type == "ERROR" || missing then some node
      else if hasError then firstFaultOf children
      else none
where
  /-- The first faulty node of a list of trees. -/
  firstFaultOf : List Cst → Option Cst
    | [] => none
    | node :: rest => (firstFault node).or (firstFaultOf rest)

/-- The first escape that strict code does not allow. -/
def firstLegacyOctal (source : Bytes) : Cst → Option Cst
  | node@⟨type, _, _, _, _, _, _, children⟩ =>
      if type == "escape_sequence" then
        if Escape.isLegacyOctal (node.text source) then some node else none
      else firstLegacyOctalOf children
where
  /-- The first such escape below the named nodes of a list. -/
  firstLegacyOctalOf : List Cst → Option Cst
    | [] => none
    | node :: rest =>
        (if node.named then firstLegacyOctal source node else none).or (firstLegacyOctalOf rest)

/-- The position of the start of a node. -/
def startPosition (source : Bytes) (node : Cst) : Position :=
  let point := pointAt source node.start
  ⟨point.row + 1, charColumn source node.start point.column⟩

/-- Refuse a tree that has a fault, or a literal that strict code does not allow. -/
def check (source : Bytes) (root : Cst) : Except ParseError Unit :=
  if root.hasError then
    let bad := root.firstFault.getD root
    let message : Text :=
      if bad.missing then "missing " ++ (bad.type : Text) else "unexpected syntax"
    .error (.at (bad.startPosition source) message)
  else
    match root.firstLegacyOctal source with
    | some escape =>
        .error (.at (escape.startPosition source)
          "octal escape sequences are not allowed in strict mode")
    | none => .ok ()

end Cst

end StoryCatalog

import StoryCatalog.Syntax.View

/-!
# Attribute trees

The tree of the strict reader: a node is a list of attributes, and an attribute is a node, a list,
or a plain value. An attribute that a node lacks reads as null.
-/

namespace StoryCatalog

/-- A value of an attribute tree. -/
inductive Estree where
  | null
  | bool (value : Bool)
  | integer (value : Int)
  | real (value : Float)
  | text (value : Text)
  | list (items : List Estree)
  | node (attributes : List (String × Estree))

namespace Estree

/-- The value of an attribute. -/
def get : Estree → String → Estree
  | .node attributes, name => (attributes.lookup name).getD .null
  | _, _ => .null

/-- The value is a node. -/
def isNode : Estree → Bool
  | .node _ => true
  | _ => false

/-- The value is null. -/
def isNull : Estree → Bool
  | .null => true
  | _ => false

/-- The text of a value that is one. -/
def text? : Estree → Option Text
  | .text value => some value
  | _ => none

/-- The items of a list. Other values have none. -/
def items : Estree → List Estree
  | .list items => items
  | _ => []

/-- Zero, null, and whatever is empty count as false. -/
def truthy : Estree → Bool
  | .null => false
  | .bool value => value
  | .integer value => value != 0
  | .real value => value != 0.0
  | .text value => !value.isEmpty
  | .list items => !items.isEmpty
  | .node _ => true

/-- The number of values of a tree. -/
def size : Estree → Nat
  | .list items => 1 + sizeList items
  | .node attributes => 1 + sizeAttributes attributes
  | _ => 1
where
  /-- The number of values of a list of trees. -/
  sizeList : List Estree → Nat
    | [] => 0
    | value :: rest => size value + sizeList rest
  /-- The number of values of a list of attributes. -/
  sizeAttributes : List (String × Estree) → Nat
    | [] => 0
    | (_, value) :: rest => size value + sizeAttributes rest

theorem sizeList_eq (values : List Estree) : size.sizeList values = sizeSum size values := by
  induction values with
  | nil => simp [size.sizeList]
  | cons value rest ih => simp [size.sizeList, ih]

theorem size_pos (value : Estree) : 0 < value.size := by
  cases value <;> simp only [size] <;> omega

/-- The two ends of a node, when it has a well-formed range. -/
def range? (value : Estree) : Option Span :=
  match value.get "range" with
  | .list [.integer start, .integer stop] => some ⟨start, stop⟩
  | _ => none

/-- The offset by which the children of a node are ordered. -/
def startOffset (value : Estree) : Int :=
  match value.get "range" with
  | .list (.integer start :: _) => start
  | _ => 0

/-- The nodes in a value: itself, or the nodes among its items. -/
def nodesIn : Estree → List Estree
  | .node attributes => [.node attributes]
  | .list items => items.filter isNode
  | _ => []

/-- The attributes that are not part of the tree proper. -/
def isSkipped (name : String) : Bool :=
  name == "type" || name == "range" || name == "loc"

/-- The nodes below a node in the order of their starts. -/
def children : Estree → List Estree
  | .node attributes =>
      ((attributes.filter fun entry => !isSkipped entry.1).flatMap fun entry =>
        nodesIn entry.2).mergeSort fun a b => a.startOffset ≤ b.startOffset
  | _ => []

/-- The callee of a call. -/
def callee? (value : Estree) : Option Estree :=
  let callee := value.get "callee"
  if callee.isNull then none else some callee

/-- The object of a member access. -/
def object? (value : Estree) : Option Estree :=
  let object := value.get "object"
  if object.isNull then none else some object

/-- The name of the property of a member access. -/
def propertyName (value : Estree) : Option Text :=
  let property := value.get "property"
  if (property.get "type").text? == some "Identifier" then (property.get "name").text? else none

/-- The shape of a value. Computed member accesses and names that are not texts count as other. -/
def shape (value : Estree) : Shape Estree :=
  match (value.get "type").text? with
  | none => .other
  | some type =>
      if type == "CallExpression" then .call value.callee? (value.get "arguments").items
      else if type == "MemberExpression" then
        if (value.get "computed").truthy then .other else .member value.object? value.propertyName
      else if type == "Identifier" then
        match (value.get "name").text? with
        | some name => .identifier name
        | none => .other
      else if type == "Literal" then
        match (value.get "value").text? with
        | some found => .string found
        | none => .other
      else .other

/-- The span of a value. A value without a range stands at the start of the text. -/
def span (value : Estree) : Span :=
  value.range?.getD ⟨0, 0⟩

theorem size_lookup_le {attributes : List (String × Estree)} {name : String} {value : Estree}
    (h : attributes.lookup name = some value) : value.size ≤ size.sizeAttributes attributes := by
  induction attributes with
  | nil => simp at h
  | cons entry rest ih =>
      obtain ⟨key, first⟩ := entry
      simp only [List.lookup_cons] at h
      simp only [size.sizeAttributes]
      split at h
      · cases h
        omega
      · have := ih h
        omega

theorem size_two_lookups_le {attributes : List (String × Estree)} {first second : String}
    {a b : Estree} (hne : first ≠ second) (ha : attributes.lookup first = some a)
    (hb : attributes.lookup second = some b) :
    a.size + b.size ≤ size.sizeAttributes attributes := by
  induction attributes with
  | nil => simp at ha
  | cons entry rest ih =>
      obtain ⟨key, value⟩ := entry
      simp only [List.lookup_cons] at ha hb
      simp only [size.sizeAttributes]
      split at ha <;> split at hb
      · simp_all
      · cases ha
        have := size_lookup_le hb
        omega
      · cases hb
        have := size_lookup_le ha
        omega
      · have := ih ha hb
        omega

/-- The items of a value are together smaller than the value. -/
theorem size_items_lt (value : Estree) : sizeSum size value.items < value.size := by
  cases value <;> simp only [items, size, sizeList_eq, sizeSum_nil] <;> omega

/-- An attribute that is not null is smaller than its node. -/
theorem size_get_lt {value : Estree} {name : String} (h : (value.get name).isNull = false) :
    (value.get name).size < value.size := by
  cases value with
  | node attributes =>
      simp only [get] at h ⊢
      cases hl : attributes.lookup name with
      | none => simp [hl, isNull] at h
      | some found =>
          have := size_lookup_le hl
          simp only [Option.getD_some, size]
          omega
  | _ => simp [get, isNull] at h

/-- A callee and the items of the arguments are together smaller than their call. -/
theorem size_callee_arguments_lt (value : Estree) :
    sizeSum size value.callee?.toList + sizeSum size (value.get "arguments").items
      < value.size := by
  cases value with
  | node attributes =>
      cases hc : attributes.lookup "callee" with
      | none =>
          cases ha : attributes.lookup "arguments" with
          | none =>
              simp only [callee?, get, hc, ha, Option.getD, isNull, items, size, if_true,
                Option.toList, sizeSum_nil]
              omega
          | some arguments =>
              have := size_lookup_le ha
              have := arguments.size_items_lt
              simp [callee?, get, hc, ha, isNull, size]
              omega
      | some callee =>
          cases ha : attributes.lookup "arguments" with
          | none =>
              have := size_lookup_le hc
              simp only [callee?, get, hc, ha, Option.getD_some, Option.getD_none, items, size,
                sizeSum_nil]
              split
              · simp only [Option.toList_none, sizeSum_nil]
                omega
              · simp only [Option.toList_some, sizeSum_cons, sizeSum_nil]
                omega
          | some arguments =>
              have := size_two_lookups_le (by decide) hc ha
              have := arguments.size_items_lt
              simp only [callee?, get, hc, ha, Option.getD_some, size]
              split
              · simp only [Option.toList_none, sizeSum_nil]
                omega
              · simp only [Option.toList_some, sizeSum_cons, sizeSum_nil]
                omega
  | list values =>
      simp only [callee?, get, isNull, items, size, if_true, Option.toList, sizeSum_nil]
      omega
  | _ => simp [callee?, get, isNull, items, size]

theorem parts_lt (value : Estree) : sizeSum size value.shape.parts < value.size := by
  have hpos := value.size_pos
  unfold shape
  split
  · simpa [Shape.parts] using hpos
  · split
    · simpa [Shape.parts] using value.size_callee_arguments_lt
    · split
      · split
        · simpa [Shape.parts] using hpos
        · simp only [Shape.parts, object?]
          split
          · simpa using hpos
          · rename_i hnull
            have hget : (value.get "object").size < value.size := size_get_lt (by simpa using hnull)
            simpa using hget
      · split
        · split <;> simpa [Shape.parts] using hpos
        · split
          · split <;> simpa [Shape.parts] using hpos
          · simpa [Shape.parts] using hpos

theorem sum_nodesIn_le (value : Estree) : sizeSum size value.nodesIn ≤ value.size := by
  cases value with
  | node attributes => simp [nodesIn]
  | list items =>
      have := sizeSum_filter_le size isNode items
      simp only [nodesIn, size, sizeList_eq]
      omega
  | _ => simp [nodesIn]

theorem sum_attribute_nodes_le (attributes : List (String × Estree)) :
    sizeSum size ((attributes.filter fun entry => !isSkipped entry.1).flatMap fun entry =>
      nodesIn entry.2) ≤ size.sizeAttributes attributes := by
  induction attributes with
  | nil => simp
  | cons entry rest ih =>
      have := sum_nodesIn_le entry.2
      simp only [List.filter_cons, size.sizeAttributes]
      split
      · simp only [List.flatMap_cons, sizeSum_append]
        omega
      · omega

theorem children_lt (value : Estree) : sizeSum size value.children < value.size := by
  cases value with
  | node attributes =>
      have hperm := sizeSum_perm size (List.mergeSort_perm
        ((attributes.filter fun entry => !isSkipped entry.1).flatMap fun entry =>
          nodesIn entry.2) fun a b => decide (a.startOffset ≤ b.startOffset))
      have := sum_attribute_nodes_le attributes
      simp only [children, size]
      rw [hperm]
      omega
  | list values =>
      simp only [children, size, sizeSum_nil]
      omega
  | _ => simp [children, size]

/-- The view of attribute trees. -/
def view : View Estree where
  shape := shape
  children := children
  span := span
  size := size
  parts_lt := parts_lt
  children_lt := children_lt

end Estree

end StoryCatalog

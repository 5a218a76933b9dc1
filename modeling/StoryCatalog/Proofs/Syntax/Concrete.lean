import StoryCatalog.Proofs.Chain.Simulation
import StoryCatalog.Proofs.Text.Utf8
import StoryCatalog.Syntax.Cst

/-!
# Concrete trees of an abstract tree

`Spells` says which concrete trees stand for an abstract tree. Any expression may be enclosed in
parentheses, comments may stand among the named children of any node, and a node of the grammar that
is no expression may stand around some of the nodes. The view of concrete trees sees the abstract
tree through all of this (`simulates`).
-/

namespace StoryCatalog

namespace Cst

/-- The comments among the children of a node have no named children. -/
def CommentsAreLeaves (node : Cst) : Prop :=
  ∀ child ∈ node.namedChildren, child.type = "comment" → child.namedChildren = []

/-- A node is related, or is in parentheses, with or without comments. -/
inductive Wrapped (R : Cst → Tree → Prop) : Cst → Tree → Prop where
  | bare {node : Cst} {tree : Tree} : R node tree → Wrapped R node tree
  | parenthesized {node inner : Cst} {tree : Tree} :
      node.type = "parenthesized_expression" → node.CommentsAreLeaves → node.content = [inner] →
      Wrapped R inner tree → Wrapped R node tree

/-- A template literal behind a callee is no list of arguments. -/
def IsTagged (node : Cst) : Prop :=
  node.type = "call_expression" ∧
    ∃ arguments, node.fieldChild "arguments" = some arguments ∧ arguments.type ≠ "arguments"

/-- A node that is neither call, member access, identifier, string nor in parentheses. -/
def IsOther (node : Cst) : Prop :=
  node.IsTagged ∨ node.type ∉ ["call_expression", "member_expression", "identifier", "string",
    "parenthesized_expression"]

/-- A list of nodes shows a list of trees: each node is related to a tree, or stands around nodes
that show some of the trees. -/
inductive Shows (R : Cst → Tree → Prop) : List Cst → List Tree → Prop where
  | nil : Shows R [] []
  | node {node : Cst} {tree : Tree} {nodes : List Cst} {trees : List Tree} :
      R node tree → Shows R nodes trees → Shows R (node :: nodes) (tree :: trees)
  | layer {node : Cst} {inner : List Tree} {nodes : List Cst} {trees : List Tree} :
      node.IsOther → node.CommentsAreLeaves → Shows R node.content inner → Shows R nodes trees →
      Shows R (node :: nodes) (inner ++ trees)

/-- The parts of a string literal and the value that they spell. -/
inductive Fragments (source : Bytes) : List Cst → Text → Prop where
  | nil : Fragments source [] []
  | fragment {node : Cst} {nodes : List Cst} {part value : Text} :
      node.type = "string_fragment" → node.namedChildren = [] → node.text source = part →
      Fragments source nodes value → Fragments source (node :: nodes) (part ++ value)
  | escape {node : Cst} {nodes : List Cst} {part value : Text} :
      node.type = "escape_sequence" → node.namedChildren = [] →
      Escape.decode (node.text source) = part →
      Fragments source nodes value → Fragments source (node :: nodes) (part ++ value)

/-- The concrete node stands for the abstract tree over the bytes of a text. The end of a member
access in bytes is where its end in characters is. -/
inductive Spells (source : Text) : Cst → Tree → Prop where
  | call {node function arguments : Cst} {callee : Tree} {values : List Tree} {span : Span} :
      node.type = "call_expression" → node.fieldChild "function" = some function →
      Wrapped (Spells source) function callee →
      node.fieldChild "arguments" = some arguments → arguments.type = "arguments" →
      List.Forall₂ (Wrapped (Spells source)) arguments.content values →
      Spells source node (.call (some callee) values span)
  | member {node object property : Cst} {tree : Tree} {name : Text} {start : Int} {stop : Nat} :
      node.type = "member_expression" → node.fieldChild "object" = some object →
      Wrapped (Spells source) object tree →
      node.fieldChild "property" = some property →
      property.type ∈ ["property_identifier", "private_property_identifier"] →
      property.text source.utf8 = name →
      node.CommentsAreLeaves → Shows (Wrapped (Spells source)) node.content [tree] →
      stop ≤ source.length → node.stop = (Text.utf8 (source.take stop)).length →
      Spells source node (.member (some tree) (some name) ⟨start, stop⟩)
  | identifier {node : Cst} {name : Text} {span : Span} :
      node.type = "identifier" → node.text source.utf8 = name → node.namedChildren = [] →
      Spells source node (.identifier name span)
  | string {node : Cst} {value : Text} {span : Span} :
      node.type = "string" → Fragments source.utf8 node.namedChildren value →
      Spells source node (.string value span)
  | other {node : Cst} {children : List Tree} {span : Span} :
      node.IsOther → node.CommentsAreLeaves →
      Shows (Wrapped (Spells source)) node.content children →
      Spells source node (.other children span)

variable {source : Text}

/-- An expression that stands for a tree is not itself in parentheses. -/
theorem Spells.type_ne {node : Cst} {tree : Tree} (h : Spells source node tree) :
    node.type ≠ "parenthesized_expression" := by
  cases h with
  | call htype => simp [htype]
  | member htype => simp [htype]
  | identifier htype => simp [htype]
  | string htype => simp [htype]
  | other hother =>
      rcases hother with ⟨htype, _⟩ | hnot
      · simp [htype]
      · exact fun htype => hnot (by simp [htype])

/-- Looking through the parentheses of an expression leads to a node that stands for it. -/
theorem Wrapped.unwrap {node : Cst} {tree : Tree} (h : Wrapped (Spells source) node tree) :
    Spells source node.unwrap tree := by
  induction h with
  | bare hnode =>
      rw [Cst.unwrap, if_neg (by simpa using hnode.type_ne)]
      exact hnode
  | @parenthesized node inner tree htype _ hcontent _ ih =>
      rw [Cst.unwrap, if_pos (by simpa using htype)]
      split
      · rename_i found hfound
        rw [hcontent] at hfound
        cases hfound
        exact ih
      · rename_i hne
        exact absurd hcontent (hne inner)

theorem shape_of_type_not_mem {node : Cst}
    (h : node.type ∉ ["call_expression", "member_expression", "identifier", "string"])
    (bytes : Bytes) : node.shape bytes = .other := by
  simp only [List.mem_cons, List.not_mem_nil, or_false, not_or] at h
  simp [Cst.shape, h]

theorem IsOther.shape {node : Cst} (h : node.IsOther) (bytes : Bytes) :
    node.shape bytes = .other := by
  rcases h with ⟨htype, arguments, hfield, hne⟩ | hnot
  · simp [Cst.shape, htype, hfield, hne]
  · exact shape_of_type_not_mem (fun hmem => hnot (by simp_all)) bytes

theorem isCall_of_shape_other {node : Cst} {bytes : Bytes} (h : node.shape bytes = .other) :
    (view bytes).isCall node = false := by
  unfold View.isCall
  rw [show (view bytes).shape node = .other from h]

/-- The parts of a string literal make up its value. -/
theorem Fragments.stringValue {bytes : Bytes} {nodes : List Cst} {value : Text}
    (h : Fragments bytes nodes value) :
    (nodes.flatMap fun child =>
      if child.type == "string_fragment" then child.text bytes
      else if child.type == "escape_sequence" then Escape.decode (child.text bytes)
      else []) = value := by
  induction h with
  | nil => rfl
  | fragment htype _ hpart _ ih =>
      rw [List.flatMap_cons, ih]
      simp [htype, hpart]
  | escape htype _ hpart _ ih =>
      rw [List.flatMap_cons, ih]
      simp [htype, hpart]

section Covers

variable {bytes : Bytes} {R : Cst → Tree → Prop}

/-- Comments that are leaves do not change what a list of nodes shows. -/
theorem covers_of_filter {nodes : List Cst} {trees : List Tree}
    (hleaf : ∀ child ∈ nodes, child.type = "comment" → child.namedChildren = [])
    (h : (view bytes).Covers R (nodes.filter fun child => child.type != "comment") trees) :
    (view bytes).Covers R nodes trees := by
  induction nodes generalizing trees with
  | nil => exact h
  | cons node rest ih =>
      have hrest : ∀ child ∈ rest, child.type = "comment" → child.namedChildren = [] :=
        fun child hmem => hleaf child (List.mem_cons_of_mem _ hmem)
      by_cases hcomment : node.type = "comment"
      · rw [List.filter_cons_of_neg (by simp [hcomment])] at h
        refine .skip (isCall_of_shape_other (shape_of_type_not_mem (by simp [hcomment]) bytes)) ?_
          (ih hrest h)
        rw [show (view bytes).children node = [] from hleaf node List.mem_cons_self hcomment]
        exact .nil
      · rw [List.filter_cons_of_pos (by simp [hcomment])] at h
        cases h with
        | node hnode htail => exact .node hnode (ih hrest htail)
        | layer hcall hinner htail => exact .layer hcall hinner (ih hrest htail)

theorem covers_namedChildren {node : Cst} {trees : List Tree} (hleaf : node.CommentsAreLeaves)
    (h : (view bytes).Covers R node.content trees) :
    (view bytes).Covers R ((view bytes).children node) trees :=
  covers_of_filter hleaf h

/-- An expression in parentheses shows what it shows without them. -/
theorem Wrapped.covers {node : Cst} {tree : Tree} {nodes : List Cst} {trees : List Tree}
    (h : Wrapped R node tree) (hrest : (view bytes).Covers R nodes trees) :
    (view bytes).Covers R (node :: nodes) (tree :: trees) := by
  induction h generalizing nodes trees with
  | bare hnode => exact .node hnode hrest
  | @parenthesized node inner tree htype hleaf hcontent _ ih =>
      have hinner : (view bytes).Covers R ((view bytes).children node) [tree] := by
        refine covers_namedChildren hleaf ?_
        rw [hcontent]
        exact ih .nil
      exact .layer (isCall_of_shape_other (shape_of_type_not_mem (by simp [htype]) bytes)) hinner
        hrest

/-- What a list of nodes shows is what the view sees of it. -/
theorem Shows.covers {nodes : List Cst} {trees : List Tree} (h : Shows (Wrapped R) nodes trees) :
    (view bytes).Covers R nodes trees := by
  induction h with
  | nil => exact .nil
  | node hnode _ ih => exact hnode.covers ih
  | layer hother hleaf _ _ ihinner ih =>
      exact .layer (isCall_of_shape_other (hother.shape bytes))
        (covers_namedChildren hleaf ihinner) ih

end Covers

/-- The parts of a string literal show nothing. -/
theorem Fragments.covers {bytes : Bytes} {R : Cst → Tree → Prop} {nodes : List Cst} {value : Text}
    (h : Fragments bytes nodes value) : (view bytes).Covers R nodes [] := by
  induction h with
  | nil => exact .nil
  | fragment htype hleaf _ _ ih | escape htype hleaf _ _ ih =>
      refine .skip (isCall_of_shape_other (shape_of_type_not_mem (by simp [htype]) bytes)) ?_ ih
      rw [show (view bytes).children _ = [] from hleaf]
      exact .nil

/-- A concrete node that spells a tree shows the shape of this tree. -/
theorem Spells.shape {node : Cst} {tree : Tree} (h : Spells source node tree) :
    Shape.Agree (Spells source) (node.shape source.utf8) tree.shape := by
  cases h with
  | call htype hfunction hcallee harguments hlist hvalues =>
      simp only [Cst.shape, htype, harguments, hlist, hfunction, beq_self_eq_true, if_true,
        Option.map_some]
      refine .call (.some hcallee.unwrap) ?_
      exact List.forall₂_map_left_iff.mpr (hvalues.imp fun _ _ h => h.unwrap)
  | @member node object property tree name start stop htype hobject hwrapped hproperty hkind
      hname =>
      have hfound : node.propertyName source.utf8 = some name := by
        simp only [List.mem_cons, List.not_mem_nil, or_false] at hkind
        rcases hkind with hkind | hkind <;> simp [propertyName, hproperty, hkind, hname]
      simp only [Cst.shape, htype, hobject, hfound, Option.map_some]
      exact .member _ (.some hwrapped.unwrap)
  | identifier htype hname =>
      simp only [Cst.shape, htype, hname]
      exact .identifier _
  | string htype hfragments =>
      simp only [Cst.shape, htype, Cst.stringValue, hfragments.stringValue]
      exact .string _
  | other hother =>
      rw [hother.shape]
      exact .other

/-- The named children of a node that spells a tree cover the children of the tree. -/
theorem Spells.children {node : Cst} {tree : Tree} (h : Spells source node tree)
    (hcall : (view source.utf8).isCall node = false) :
    (view source.utf8).Covers (Spells source) node.namedChildren tree.children := by
  cases h with
  | call htype hfunction _ harguments hlist _ =>
      simp [View.isCall, view, Cst.shape, htype, harguments, hlist] at hcall
  | member _ _ _ _ _ _ hleaf hshows => exact covers_namedChildren hleaf hshows.covers
  | identifier _ _ hleaf =>
      rw [hleaf]
      exact .nil
  | string _ hfragments => exact hfragments.covers
  | other _ hleaf hshows => exact covers_namedChildren hleaf hshows.covers

/-- The view of concrete trees sees the abstract tree. -/
theorem simulates (source : Text) : (view source.utf8).Simulates Tree.view (Spells source) where
  shape := Spells.shape
  children := Spells.children

end Cst

end StoryCatalog

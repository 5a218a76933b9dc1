import Mathlib.Data.List.Perm.Basic
import StoryCatalog.Proofs.Chain.Simulation
import StoryCatalog.Syntax.Estree

/-!
# Attribute trees of an abstract tree

`Spells` says which attribute trees stand for an abstract tree. The attributes of a node come in any
order, and the nodes in them are told apart by where they start; leaves that mean nothing to the
abstract tree, such as the name of a property, may stand anywhere among them. The view of attribute
trees sees the abstract tree (`simulates`), because it puts the nodes into the order of their
starts.
-/

namespace StoryCatalog

namespace Estree

/-- The nodes in the attributes of a node, in the order of the attributes. -/
def fieldNodes : Estree → List Estree
  | .node attributes =>
      (attributes.filter fun entry => !isSkipped entry.1).flatMap fun entry => nodesIn entry.2
  | _ => []

/-- The type of a node is this one. -/
def HasType (value : Estree) (type : String) : Prop :=
  (value.get "type").text? = some (type : Text)

/-- A node without nodes below it that is no call. -/
def IsLeaf (value : Estree) : Prop :=
  value.fieldNodes = [] ∧ ¬value.HasType "CallExpression"

/-- A node that is neither call, member access, identifier nor string. -/
inductive IsOther (value : Estree) : Prop where
  | computed : value.HasType "MemberExpression" → (value.get "computed").truthy = true →
      IsOther value
  | literal : value.HasType "Literal" → (value.get "value").text? = none → IsOther value
  | type {type : Text} : (value.get "type").text? = some type →
      type ∉ (["CallExpression", "MemberExpression", "Identifier", "Literal"].map Text.ofString) →
      IsOther value

/-- The nodes in the attributes are these, one behind the other in the source, and leaves. -/
structure Holds (value : Estree) (nodes : List Estree) : Prop where
  ascending : nodes.Pairwise fun first second => first.startOffset < second.startOffset
  perm : ∃ leaves, value.fieldNodes.Perm (nodes ++ leaves) ∧ ∀ leaf ∈ leaves, leaf.IsLeaf

/-- A list of nodes shows a list of trees: each node is related to a tree, or stands around nodes
that show some of the trees. -/
inductive Shows (R : Estree → Tree → Prop) : List Estree → List Tree → Prop where
  | nil : Shows R [] []
  | node {node : Estree} {tree : Tree} {nodes : List Estree} {trees : List Tree} :
      R node tree → Shows R nodes trees → Shows R (node :: nodes) (tree :: trees)
  | layer {node : Estree} {inside nodes : List Estree} {inner trees : List Tree} :
      node.IsOther → node.Holds inside → Shows R inside inner → Shows R nodes trees →
      Shows R (node :: nodes) (inner ++ trees)

/-- The attribute tree stands for the abstract tree. Every node has a range, and that of a member
access ends where the abstract one does. -/
inductive Spells : Estree → Tree → Prop where
  | call {value callee : Estree} {arguments : List Estree} {tree : Tree} {values : List Tree}
      {range span : Span} :
      value.HasType "CallExpression" → value.range? = some range →
      value.get "callee" = callee → Spells callee tree →
      value.get "arguments" = .list arguments → List.Forall₂ Spells arguments values →
      Spells value (.call (some tree) values span)
  | member {value object : Estree} {tree : Tree} {name : Text} {start first stop : Int} :
      value.HasType "MemberExpression" → value.range? = some ⟨first, stop⟩ →
      (value.get "computed").truthy = false →
      value.get "object" = object → Spells object tree →
      (value.get "property").HasType "Identifier" →
      ((value.get "property").get "name").text? = some name →
      value.Holds [object] → Spells value (.member (some tree) (some name) ⟨start, stop⟩)
  | identifier {value : Estree} {name : Text} {range span : Span} :
      value.HasType "Identifier" → value.range? = some range →
      (value.get "name").text? = some name → value.Holds [] →
      Spells value (.identifier name span)
  | string {value : Estree} {text : Text} {range span : Span} :
      value.HasType "Literal" → value.range? = some range →
      (value.get "value").text? = some text → value.Holds [] → Spells value (.string text span)
  | other {value : Estree} {nodes : List Estree} {children : List Tree} {range span : Span} :
      value.IsOther → value.range? = some range →
      value.Holds nodes → Shows Spells nodes children → Spells value (.other children span)

/-- A tree stands in the source, so it has a range. -/
theorem Spells.isSome_range? {value : Estree} {tree : Tree} (h : Spells value tree) :
    value.range?.isSome = true := by
  cases h with
  | call _ hrange | member _ hrange | identifier _ hrange | string _ hrange | other _ hrange =>
      rw [hrange]
      rfl

/-- A value with a range is a node, so it is not `null`. -/
theorem isNull_of_isSome_range? {value : Estree} (h : value.range?.isSome = true) :
    value.isNull = false := by
  cases value <;> simp [range?, get, isNull] at h ⊢

/-- The children of a node are the nodes in its fields, in the order they start in. -/
theorem children_eq (value : Estree) :
    value.children = value.fieldNodes.mergeSort fun first second =>
      first.startOffset ≤ second.startOffset := by
  cases value <;> simp [children, fieldNodes]

/-- The children of a node come in the order they start in. -/
theorem pairwise_children (value : Estree) :
    value.children.Pairwise fun first second => first.startOffset ≤ second.startOffset := by
  rw [children_eq]
  refine (List.pairwise_mergeSort ?_ ?_ value.fieldNodes).imp of_decide_eq_true
  · intro first second third h h'
    simp only [decide_eq_true_eq] at h h' ⊢
    omega
  · intro first second
    simp only [Bool.or_eq_true, decide_eq_true_eq]
    omega

theorem IsOther.shape {value : Estree} (h : value.IsOther) : value.shape = .other := by
  cases h with
  | computed htype hcomputed =>
      rw [HasType] at htype
      simp only [Estree.shape, htype]
      rw [if_neg (by decide), if_pos (by decide), if_pos hcomputed]
  | literal htype hvalue =>
      rw [HasType] at htype
      simp only [Estree.shape, htype, hvalue]
      rw [if_neg (by decide), if_neg (by decide), if_neg (by decide), if_pos (by decide)]
  | @type type htype hnot =>
      simp only [List.map_cons, List.map_nil, List.mem_cons, List.not_mem_nil, or_false, not_or]
        at hnot
      simp [Estree.shape, htype, hnot]

theorem isCall_of_shape_other {value : Estree} (h : value.shape = .other) :
    view.isCall value = false := by
  unfold View.isCall
  rw [show view.shape value = .other from h]

/-- A call expression shows its callee and its arguments. -/
theorem shape_of_call {value : Estree} (h : value.HasType "CallExpression") :
    value.shape = .call value.callee? (value.get "arguments").items := by
  rw [HasType] at h
  simp only [Estree.shape, h]
  rw [if_pos (by decide)]

/-- Only a node of that type is a call. -/
theorem hasType_of_shape_call {value : Estree} {callee : Option Estree} {arguments : List Estree}
    (h : value.shape = .call callee arguments) : value.HasType "CallExpression" := by
  unfold Estree.shape at h
  split at h
  · cases h
  · rename_i type htype
    split at h
    · rename_i heq
      rw [HasType, htype, eq_of_beq heq]
    · repeat' split at h
      all_goals cases h

theorem IsLeaf.isCall {value : Estree} (h : value.IsLeaf) : view.isCall value = false := by
  cases hcall : view.isCall value with
  | false => rfl
  | true => exact absurd (hasType_of_shape_call (View.isCall_iff.mp hcall)) h.2

section Covers

variable {R : Estree → Tree → Prop}

/-- The nodes in the order of their starts show what the ascending ones among them show, because
the others are leaves. -/
theorem covers_of_perm {sorted nodes leaves : List Estree} {trees : List Tree}
    (hsorted : sorted.Pairwise fun first second => first.startOffset ≤ second.startOffset)
    (hascending : nodes.Pairwise fun first second => first.startOffset < second.startOffset)
    (hleaf : ∀ leaf ∈ leaves, leaf.IsLeaf) (hperm : sorted.Perm (nodes ++ leaves))
    (h : view.Covers R nodes trees) : view.Covers R sorted trees := by
  induction sorted generalizing nodes leaves trees with
  | nil =>
      obtain ⟨rfl, _⟩ := List.append_eq_nil_iff.mp hperm.nil_eq.symm
      exact h
  | cons node rest ih =>
      obtain ⟨hfirst, hrest⟩ := List.pairwise_cons.mp hsorted
      rcases List.mem_append.mp (hperm.subset List.mem_cons_self) with hmem | hmem
      · -- the first node starts no later than the others, so it is the first of the ascending ones
        cases nodes with
        | nil => simp at hmem
        | cons found nodes =>
            obtain ⟨hbehind, htail⟩ := List.pairwise_cons.mp hascending
            have heq : found = node := by
              rcases List.mem_cons.mp hmem with heq | hmem
              · exact heq.symm
              · have hlt := hbehind node hmem
                have hfound : found ∈ node :: rest :=
                  hperm.symm.subset (List.mem_append_left _ List.mem_cons_self)
                rcases List.mem_cons.mp hfound with heq | hfound
                · exact heq
                · have hle := hfirst found hfound
                  omega
            subst heq
            have hperm : rest.Perm (nodes ++ leaves) := hperm.cons_inv
            cases h with
            | node hnode hcovers => exact .node hnode (ih hrest htail hleaf hperm hcovers)
            | layer hcall hinner hcovers =>
                exact .layer hcall hinner (ih hrest htail hleaf hperm hcovers)
      · -- a leaf is a layer without anything inside
        obtain ⟨front, back, rfl⟩ := List.append_of_mem hmem
        have hsplit : rest.Perm (nodes ++ (front ++ back)) := by
          refine List.Perm.cons_inv (hperm.trans ?_)
          rw [← List.append_assoc, ← List.append_assoc]
          exact List.perm_middle
        have hnode := hleaf node hmem
        refine .skip hnode.isCall ?_ (ih hrest hascending ?_ hsplit h)
        · rw [show view.children node = [] by
            show node.children = []
            rw [children_eq, hnode.1, List.mergeSort_nil]]
          exact .nil
        · intro leaf hmem'
          refine hleaf leaf ?_
          simp only [List.mem_append, List.mem_cons] at hmem' ⊢
          tauto

/-- A node that holds nodes covering some trees covers them by its own children. -/
theorem Holds.covers {value : Estree} {nodes : List Estree} {trees : List Tree}
    (hholds : value.Holds nodes) (h : view.Covers R nodes trees) :
    view.Covers R (view.children value) trees := by
  obtain ⟨leaves, hperm, hleaf⟩ := hholds.perm
  have hsorted : value.children.Perm (nodes ++ leaves) := by
    rw [children_eq]
    exact (List.mergeSort_perm _ _).trans hperm
  exact covers_of_perm value.pairwise_children hholds.ascending hleaf hsorted h

/-- What a list of nodes shows is what the view sees of it. -/
theorem Shows.covers {nodes : List Estree} {trees : List Tree} (h : Shows R nodes trees) :
    view.Covers R nodes trees := by
  induction h with
  | nil => exact .nil
  | node hnode _ ih => exact .node hnode ih
  | layer hother hholds _ _ ihinner ih =>
      exact .layer (isCall_of_shape_other hother.shape) (hholds.covers ihinner) ih

end Covers

/-- A value that spells a tree shows the shape of this tree. -/
theorem Spells.shape {value : Estree} {tree : Tree} (h : Spells value tree) :
    Shape.Agree Spells value.shape tree.shape := by
  cases h with
  | @call _ callee arguments _ _ _ _ htype _ hcallee hspells harguments hvalues =>
      have hnull := isNull_of_isSome_range? hspells.isSome_range?
      have hfound : value.callee? = some callee := by
        simp only [callee?, hcallee, hnull]
        rfl
      rw [shape_of_call htype, hfound, harguments]
      exact .call (.some hspells) hvalues
  | @member _ object _ name _ _ _ htype _ hcomputed hobject hspells hproperty hname =>
      rw [HasType] at htype hproperty
      have hnull := isNull_of_isSome_range? hspells.isSome_range?
      have hfound : value.object? = some object := by
        simp only [object?, hobject, hnull]
        rfl
      have hnamed : value.propertyName = some name := by
        simp only [propertyName, hproperty, hname]
        rfl
      simp only [Estree.shape, htype, hfound, hnamed, hcomputed]
      rw [if_neg (by decide), if_pos (by decide), if_neg (by decide)]
      exact .member _ (.some hspells)
  | identifier htype _ hname =>
      rw [HasType] at htype
      simp only [Estree.shape, htype, hname]
      rw [if_neg (by decide), if_neg (by decide), if_pos (by decide)]
      exact .identifier _
  | string htype _ hvalue =>
      rw [HasType] at htype
      simp only [Estree.shape, htype, hvalue]
      rw [if_neg (by decide), if_neg (by decide), if_neg (by decide), if_pos (by decide)]
      exact .string _
  | other hother =>
      rw [hother.shape]
      exact .other

/-- The children of a value that spells a tree cover the children of the tree. -/
theorem Spells.children {value : Estree} {tree : Tree} (h : Spells value tree)
    (hcall : view.isCall value = false) :
    view.Covers Spells (view.children value) tree.children := by
  cases h with
  | call htype =>
      have htrue : view.isCall value = true := View.isCall_of_shape (shape_of_call htype)
      rw [htrue] at hcall
      cases hcall
  | member _ _ _ _ hspells _ _ hholds => exact hholds.covers (.node hspells .nil)
  | identifier _ _ _ hholds => exact hholds.covers .nil
  | string _ _ _ hholds => exact hholds.covers .nil
  | other _ _ hholds hshows => exact hholds.covers hshows.covers

/-- The view of attribute trees sees the abstract tree. -/
theorem simulates : view.Simulates Tree.view Spells where
  shape := Spells.shape
  children := Spells.children

end Estree

end StoryCatalog

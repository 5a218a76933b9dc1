import Mathlib.Data.List.Nodup
import StoryCatalog.Proofs.Chain.Calls
import StoryCatalog.Proofs.Chain.Simulation

/-!
# Occurrences in an abstract tree

Equal subtrees may stand at several places of a tree. An occurrence is a node with the numbers that
lead to it from the top, so that two occurrences are never confused. Occurrences have a view of
their own, which shows the same program as the tree (`simulates`), and its list of calls holds every
occurrence of a call exactly once (`mem_calls_iff`, `nodup_calls`).
-/

namespace StoryCatalog

namespace Tree

/-- The part of a node with a number. A callee and an object have the number zero, and the arguments
are counted from one. -/
def part? : Tree → Nat → Option Tree
  | .call callee _ _, 0 => callee
  | .call _ arguments _, i + 1 => arguments[i]?
  | .member object _ _, 0 => object
  | .other children _, i => children[i]?
  | _, _ => none

/-- The node that the numbers of a path lead to. -/
def at? (tree : Tree) : List Nat → Option Tree
  | [] => some tree
  | i :: path => (tree.part? i).bind fun part => part.at? path

/-- A node at the end of a path. -/
structure Occurrence where
  path : List Nat
  node : Tree

namespace Occurrence

/-- The path leads to the node. -/
def In (o : Occurrence) (tree : Tree) : Prop :=
  tree.at? o.path = some o.node

/-- The occurrence of a part with a number. -/
def part (o : Occurrence) (i : Nat) (tree : Tree) : Occurrence :=
  ⟨o.path ++ [i], tree⟩

/-- The occurrences of parts that are numbered from `i` on. -/
def parts (o : Occurrence) : Nat → List Tree → List Occurrence
  | _, [] => []
  | i, tree :: rest => o.part i tree :: o.parts (i + 1) rest

/-- The shape of the node, with the occurrences of its parts. -/
def shape (o : Occurrence) : Shape Occurrence :=
  match o.node with
  | .call callee arguments _ => .call (callee.map (o.part 0)) (o.parts 1 arguments)
  | .member object property _ => .member (object.map (o.part 0)) property
  | .identifier name _ => .identifier name
  | .string value _ => .string value
  | .other .. => .other

/-- The occurrences right below an occurrence. -/
def children (o : Occurrence) : List Occurrence :=
  match o.node with
  | .call callee arguments _ => (callee.map (o.part 0)).toList ++ o.parts 1 arguments
  | .member object _ _ => (object.map (o.part 0)).toList
  | .identifier .. | .string .. => []
  | .other children _ => o.parts 0 children

/-- The number of nodes below an occurrence. -/
def size (o : Occurrence) : Nat :=
  o.node.size

/-- Numbering the parts of a tree leaves their sizes as they were. -/
theorem sizeSum_parts (o : Occurrence) (i : Nat) (trees : List Tree) :
    sizeSum size (o.parts i trees) = sizeSum Tree.size trees := by
  induction trees generalizing i with
  | nil => rfl
  | cons tree rest ih => simp [parts, ih, part, size]

theorem sizeSum_part (o : Occurrence) (tree : Option Tree) :
    sizeSum size (tree.map (o.part 0)).toList = sizeSum Tree.size tree.toList := by
  cases tree <;> simp [part, size]

/-- The children of an occurrence are smaller than it, taken together. -/
theorem children_lt (o : Occurrence) : sizeSum size o.children < o.size := by
  have h := Tree.children_lt o.node
  unfold children
  show _ < o.node.size
  cases hnode : o.node <;> rw [hnode] at h <;>
    simpa [Tree.children, sizeSum_parts, sizeSum_part] using h

/-- The parts of the shape of an occurrence are smaller than it, taken together. -/
theorem parts_lt (o : Occurrence) : sizeSum size o.shape.parts < o.size := by
  have h := Tree.parts_lt o.node
  unfold shape
  show _ < o.node.size
  cases hnode : o.node <;> rw [hnode] at h <;>
    simpa [Tree.shape, Shape.parts, sizeSum_parts, sizeSum_part] using h

/-- The view of occurrences. -/
def view : View Occurrence where
  shape := shape
  children := children
  span := fun o => o.node.span
  size := size
  parts_lt := parts_lt
  children_lt := children_lt

/-- The occurrences of some parts stand for these parts, one for one. -/
theorem forall₂_parts (o : Occurrence) (i : Nat) (trees : List Tree) :
    List.Forall₂ (fun x tree => x.node = tree) (o.parts i trees) trees := by
  induction trees generalizing i with
  | nil => exact .nil
  | cons tree rest ih => exact .cons rfl (ih (i + 1))

theorem rel_part (o : Occurrence) (tree : Option Tree) :
    Option.Rel (fun x tree => x.node = tree) (tree.map (o.part 0)) tree := by
  cases tree with
  | none => exact .none
  | some tree => exact .some rfl

/-- Occurrences show the tree they belong to. -/
theorem simulates : view.Simulates Tree.view fun o tree => o.node = tree where
  shape := by
    rintro o tree rfl
    show Shape.Agree _ o.shape o.node.shape
    unfold shape Tree.shape
    cases o.node with
    | call callee arguments span => exact .call (o.rel_part callee) (o.forall₂_parts 1 arguments)
    | member object property span => exact .member property (o.rel_part object)
    | identifier name span => exact .identifier name
    | string value span => exact .string value
    | other children span => exact .other
  children := by
    rintro o tree rfl hcall
    show view.Covers _ o.children o.node.children
    unfold children Tree.children
    unfold View.isCall at hcall
    cases hnode : o.node with
    | call callee arguments span => simp [view, shape, hnode] at hcall
    | member object property span =>
        cases object with
        | none => exact .nil
        | some object => exact .node rfl .nil
    | identifier name span => exact .nil
    | string value span => exact .nil
    | other children span => exact .of_forall₂ (o.forall₂_parts 0 children)

/-- Occurrences keep the object of a member expression inside it, as trees do. -/
theorem membersHoldObjects : view.MembersHoldObjects := by
  intro o object property h
  have h : o.shape = .member object property := h
  show o.children = object.toList
  unfold shape at h
  unfold children
  cases hnode : o.node <;> simp_all

/-- An occurrence of an identifier has nothing below it, as the identifier has not. -/
theorem identifiersAreLeaves : view.IdentifiersAreLeaves := by
  intro o name h
  have h : o.shape = .identifier name := h
  show o.children = []
  unfold shape at h
  unfold children
  cases hnode : o.node <;> simp_all

/-- The occurrences of numbered parts. -/
theorem mem_parts {o x : Occurrence} {i : Nat} {trees : List Tree} :
    x ∈ o.parts i trees ↔ ∃ j tree, trees[j]? = some tree ∧ x = o.part (i + j) tree := by
  induction trees generalizing i with
  | nil => simp [parts]
  | cons first rest ih =>
      rw [parts, List.mem_cons, ih]
      constructor
      · rintro (rfl | ⟨j, tree, hget, rfl⟩)
        · exact ⟨0, first, rfl, rfl⟩
        · exact ⟨j + 1, tree, hget, by rw [Nat.add_right_comm, Nat.add_assoc]⟩
      · rintro ⟨j, tree, hget, rfl⟩
        cases j with
        | zero =>
            cases hget
            exact .inl rfl
        | succ j => exact .inr ⟨j, tree, hget, by rw [Nat.add_right_comm, Nat.add_assoc]⟩

/-- The occurrences below an occurrence are those of the parts of its node. -/
theorem mem_children {o x : Occurrence} :
    x ∈ o.children ↔ ∃ i tree, o.node.part? i = some tree ∧ x = o.part i tree := by
  unfold children
  cases o.node with
  | call callee arguments span =>
      rw [List.mem_append, mem_parts, Option.mem_toList, Option.map_eq_some_iff]
      constructor
      · rintro (⟨tree, rfl, rfl⟩ | ⟨j, tree, hget, rfl⟩)
        · exact ⟨0, tree, rfl, rfl⟩
        · exact ⟨j + 1, tree, hget, by rw [Nat.add_comm]⟩
      · rintro ⟨i, tree, hpart, rfl⟩
        cases i with
        | zero => exact .inl ⟨tree, hpart, rfl⟩
        | succ i => exact .inr ⟨i, tree, hpart, by rw [Nat.add_comm]⟩
  | member object property span =>
      rw [Option.mem_toList, Option.map_eq_some_iff]
      constructor
      · rintro ⟨tree, rfl, rfl⟩
        exact ⟨0, tree, rfl, rfl⟩
      · rintro ⟨i, tree, hpart, rfl⟩
        cases i with
        | zero => exact ⟨tree, hpart, rfl⟩
        | succ i => simp [part?] at hpart
  | identifier name span => simp [part?]
  | string value span => simp [part?]
  | other children span => simp [mem_parts, part?]

/-- Different parts have different numbers. -/
theorem pairwise_parts (o : Occurrence) (i : Nat) (trees : List Tree) :
    (o.parts i trees).Pairwise fun x y => x.path ≠ y.path := by
  induction trees generalizing i with
  | nil => exact .nil
  | cons tree rest ih =>
      refine .cons ?_ (ih (i + 1))
      intro x hx
      obtain ⟨j, tree', _, rfl⟩ := mem_parts.mp hx
      simp [part]
      omega

/-- The children of an occurrence are told apart by their paths. -/
theorem pairwise_children (o : Occurrence) : o.children.Pairwise fun x y => x.path ≠ y.path := by
  unfold children
  cases o.node with
  | call callee arguments span =>
      cases callee with
      | none => exact o.pairwise_parts 1 arguments
      | some callee => exact o.pairwise_parts 0 (callee :: arguments)
  | member object property span =>
      cases object with
      | none => exact .nil
      | some object => exact o.pairwise_parts 0 [object]
  | identifier name span => exact .nil
  | string value span => exact .nil
  | other children span => exact o.pairwise_parts 0 children

/-- The calls of an occurrence are itself, if it is a call, and those of the occurrences below. -/
theorem calls_eq (o : Occurrence) :
    view.calls o = (if view.isCall o then [o] else []) ++ o.children.flatMap view.calls := by
  cases hcall : view.isCall o with
  | false =>
      rw [View.calls_of_not_call hcall]
      rfl
  | true =>
      rw [View.calls_of_call hcall, ← List.flatMap_append]
      have hchildren : (view.callee? o).toList ++ view.arguments o = o.children := by
        unfold View.isCall at hcall
        unfold View.callee? View.arguments
        simp only [view, shape, children] at hcall ⊢
        cases hnode : o.node <;> simp_all
      rw [hchildren]
      rfl

/-- The path of an occurrence goes on from that of the other and leads to its node. -/
def Below (x o : Occurrence) : Prop :=
  ∃ path, x.path = o.path ++ path ∧ o.node.at? path = some x.node

/-- Whatever is below an occurrence is the occurrence itself or below one of its children. -/
theorem below_iff {x o : Occurrence} : x.Below o ↔ x = o ∨ ∃ part ∈ o.children, x.Below part := by
  constructor
  · rintro ⟨path, hpath, hat⟩
    cases path with
    | nil =>
        have hnode : o.node = x.node := Option.some.inj hat
        obtain ⟨above, node⟩ := x
        obtain ⟨above', node'⟩ := o
        exact .inl (by simp_all)
    | cons i path =>
        obtain ⟨tree, hpart, hat⟩ := Option.bind_eq_some_iff.mp hat
        exact .inr ⟨o.part i tree, mem_children.mpr ⟨i, tree, hpart, rfl⟩, path,
          by simp [hpath, part], hat⟩
  · rintro (rfl | ⟨_, hmem, path, hpath, hat⟩)
    · exact ⟨[], by simp, rfl⟩
    · obtain ⟨i, tree, hpart, rfl⟩ := mem_children.mp hmem
      refine ⟨i :: path, by simp [hpath, part], ?_⟩
      simp only [at?, hpart, Option.bind_some]
      exact hat

/-- The occurrence of a whole tree. -/
def top (tree : Tree) : Occurrence :=
  ⟨[], tree⟩

/-- The occurrences below the top of a tree are those in the tree. -/
theorem below_top_iff {x : Occurrence} {tree : Tree} : x.Below (top tree) ↔ x.In tree := by
  constructor
  · rintro ⟨path, rfl, h⟩
    exact h
  · intro h
    exact ⟨x.path, rfl, h⟩

/-- The list of calls holds every occurrence of a call. -/
theorem mem_calls_iff {x o : Occurrence} :
    x ∈ view.calls o ↔ x.Below o ∧ view.isCall x = true := by
  induction hsize : o.size using Nat.strongRecOn generalizing o with
  | ind size ih =>
      subst hsize
      have hpart : ∀ part ∈ o.children,
          (x ∈ view.calls part ↔ x.Below part ∧ view.isCall x = true) :=
        fun part h => ih _ (view.size_lt_of_mem_children h) rfl
      rw [calls_eq, List.mem_append, List.mem_flatMap, below_iff]
      constructor
      · rintro (h | ⟨part, hmem, h⟩)
        · split at h
          · rename_i hcall
            rw [List.mem_singleton.mp h]
            exact ⟨.inl rfl, hcall⟩
          · exact absurd h (by simp)
        · obtain ⟨hbelow, hcall⟩ := (hpart part hmem).mp h
          exact ⟨.inr ⟨part, hmem, hbelow⟩, hcall⟩
      · rintro ⟨rfl | ⟨part, hmem, hbelow⟩, hcall⟩
        · exact .inl (by simp [hcall])
        · exact .inr ⟨part, hmem, (hpart part hmem).mpr ⟨hbelow, hcall⟩⟩

/-- Nothing is below two different children. -/
theorem eq_of_below {x o first second : Occurrence} (hfirst : first ∈ o.children)
    (hsecond : second ∈ o.children) (h : x.Below first) (h' : x.Below second) :
    first.path = second.path := by
  obtain ⟨i, tree, _, rfl⟩ := mem_children.mp hfirst
  obtain ⟨j, tree', _, rfl⟩ := mem_children.mp hsecond
  obtain ⟨path, hpath, _⟩ := h
  obtain ⟨path', hpath', _⟩ := h'
  simp only [part, List.append_assoc, List.singleton_append] at hpath hpath' ⊢
  rw [hpath, List.append_cancel_left_eq] at hpath'
  rw [(List.cons.inj hpath').1]

/-- The list of calls holds no occurrence twice. -/
theorem nodup_calls (o : Occurrence) : (view.calls o).Nodup := by
  induction hsize : o.size using Nat.strongRecOn generalizing o with
  | ind size ih =>
      subst hsize
      rw [calls_eq]
      refine List.nodup_append.mpr ⟨?_, List.nodup_flatMap.mpr ⟨?_, ?_⟩, ?_⟩
      · split <;> simp
      · exact fun part h => ih _ (view.size_lt_of_mem_children h) part rfl
      · refine o.pairwise_children.imp_of_mem ?_
        intro first second hfirst hsecond hne x h h'
        exact hne (eq_of_below hfirst hsecond (mem_calls_iff.mp h).1 (mem_calls_iff.mp h').1)
      · rintro x hx y hy rfl
        obtain ⟨part, hmem, hy⟩ := List.mem_flatMap.mp hy
        obtain ⟨i, tree, _, rfl⟩ := mem_children.mp hmem
        obtain ⟨⟨path, hpath, _⟩, _⟩ := mem_calls_iff.mp hy
        have hlength := congrArg List.length hpath
        split at hx
        · rw [List.mem_singleton.mp hx] at hlength
          simp [part] at hlength
        · exact absurd hx (by simp)

end Occurrence

end Tree

end StoryCatalog

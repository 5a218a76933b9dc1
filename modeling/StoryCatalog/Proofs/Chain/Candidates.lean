import StoryCatalog.Proofs.Chain.Descent
import StoryCatalog.Syntax.Tree

/-!
# The candidates of a walk

The calls that a walk offers to the recogniser, in the order of offering. `walkStack_eq` says that
these are the calls that the walk records as offered, and that it is nothing but the recogniser
applied to them one by one; `candidates_append` says that the nodes of a stack are walked
independently of each other.
-/

namespace StoryCatalog

namespace View

open Chain

variable {N : Type} (view : View N) (pattern : Pattern)

/-- What is left to walk after a call is smaller than the call. -/
theorem total_pending_recognize (node : N) :
    view.total (view.pending (view.recognize pattern node)) < view.size node := by
  simpa [recognize] using view.total_pending_descend pattern node [] [] []

theorem size_lt_of_mem_pending {node part : N}
    (h : part ∈ view.pending (view.recognize pattern node)) : view.size part < view.size node :=
  Nat.lt_of_le_of_lt (le_sizeSum_of_mem view.size h) (view.total_pending_recognize pattern node)

theorem size_lt_of_mem_children {node part : N} (h : part ∈ view.children node) :
    view.size part < view.size node :=
  Nat.lt_of_le_of_lt (le_sizeSum_of_mem view.size h) (view.children_lt node)

theorem size_lt_of_mem_parts {node part : N} (h : part ∈ (view.shape node).parts) :
    view.size part < view.size node :=
  Nat.lt_of_le_of_lt (le_sizeSum_of_mem view.size h) (view.parts_lt node)

theorem mem_parts_of_mem_callee {node part : N} (h : part ∈ (view.callee? node).toList) :
    part ∈ (view.shape node).parts := by
  rw [shape_of_callee? (Option.mem_toList.mp h)]
  simp [Shape.parts]

theorem mem_parts_of_mem_arguments {node part : N} (h : part ∈ view.arguments node) :
    part ∈ (view.shape node).parts := by
  unfold View.arguments at h
  split at h
  · rename_i callee arguments hshape
    simp [hshape, Shape.parts, h]
  · exact absurd h (by simp)

/-- The calls that the walk of a stack offers to the recogniser, in order. -/
def candidates : List N → List N
  | [] => []
  | node :: rest =>
      if view.isCall node then
        node :: candidates (view.pending (view.recognize pattern node) ++ rest)
      else candidates (view.children node ++ rest)
termination_by stack => view.total stack
decreasing_by
  · have h := view.total_pending_recognize pattern node
    simp only [total_append, total_cons]
    omega
  · have h : view.total (view.children node) < view.size node := view.children_lt node
    simp only [total_append, total_cons]
    omega

/-- The children of a member access are its object and nothing else. -/
def MembersHoldObjects : Prop :=
  ∀ ⦃node object property⦄, view.shape node = .member object property →
    view.children node = object.toList

variable {view pattern}

@[simp] theorem candidates_nil : view.candidates pattern [] = [] := by
  rw [candidates]

/-- A call is offered, and then what its recognition leaves to walk. -/
theorem candidates_cons_of_call {node : N} (h : view.isCall node = true) (rest : List N) :
    view.candidates pattern (node :: rest) =
      node :: view.candidates pattern (view.pending (view.recognize pattern node) ++ rest) := by
  rw [candidates, if_pos h]

/-- What is no call is not offered; its children are walked in its place. -/
theorem candidates_cons_of_not_call {node : N} (h : view.isCall node = false) (rest : List N) :
    view.candidates pattern (node :: rest) =
      view.candidates pattern (view.children node ++ rest) := by
  rw [candidates, if_neg (by simp [h])]

/-- The nodes of a stack are walked one after the other. -/
theorem candidates_append (first second : List N) :
    view.candidates pattern (first ++ second) =
      view.candidates pattern first ++ view.candidates pattern second := by
  fun_induction View.candidates view pattern first with
  | case1 => rfl
  | case2 node rest hcall ih =>
      rw [List.cons_append, candidates_cons_of_call hcall, ← List.append_assoc, ih,
        List.cons_append]
  | case3 node rest hcall ih =>
      rw [List.cons_append, candidates_cons_of_not_call (by simpa using hcall),
        ← List.append_assoc, ih]

/-- A walk offers its candidates, and is the recogniser applied to them. -/
theorem walkStack_eq (stack : List N) :
    view.walkStack pattern stack =
      ⟨view.candidates pattern stack,
        (view.candidates pattern stack).filterMap (view.chain? pattern),
        (view.candidates pattern stack).flatMap fun node =>
          (view.descend pattern node [] [] []).consulted⟩ := by
  fun_induction View.walkStack view pattern stack with
  | case1 => simp
  | case2 node rest hcall descent after found hfound ih =>
      have hchain : view.chain? pattern node = some found := chain?_of_matched hfound
      rw [candidates_cons_of_call hcall, List.filterMap_cons_some hchain, List.flatMap_cons]
      simp only [after, ih]
      rfl
  | case3 node rest hcall descent after found hfound ih =>
      have hchain : view.chain? pattern node = none := chain?_of_mismatched hfound
      rw [candidates_cons_of_call hcall, List.filterMap_cons_none hchain, List.flatMap_cons]
      simp only [after, ih]
      rfl
  | case4 node rest hcall ih => rw [ih, candidates_cons_of_not_call (by simpa using hcall)]

/-- The calls that the walk of a tree offers. -/
theorem offered_walk (root : N) :
    (view.walk pattern root).offered = view.candidates pattern [root] := by
  rw [walk, walkStack_eq]

/-- The chains of a stack are those of its nodes, one node after the other. -/
theorem found_walkStack (stack : List N) :
    (view.walkStack pattern stack).found =
      stack.flatMap fun node => (view.walk pattern node).found := by
  induction stack with
  | nil => simp [walkStack_eq]
  | cons node rest ih =>
      rw [← List.singleton_append, walkStack_eq, candidates_append, List.filterMap_append,
        List.singleton_append, List.flatMap_cons, ← ih]
      simp only [walk, walkStack_eq]

/-- A node that is no call has the chains of its children. -/
theorem found_walk_of_not_call {node : N} (h : view.isCall node = false) :
    (view.walk pattern node).found =
      (view.children node).flatMap fun part => (view.walk pattern part).found := by
  rw [← found_walkStack, walk, walkStack_eq, walkStack_eq, candidates_cons_of_not_call h,
    List.append_nil]

/-- A call has the chain that it makes, and then those of what is left to be walked. -/
theorem found_walk_of_call {node : N} (h : view.isCall node = true) :
    (view.walk pattern node).found =
      (view.chain? pattern node).toList ++
        (view.pending (view.recognize pattern node)).flatMap fun part =>
          (view.walk pattern part).found := by
  rw [← found_walkStack, walk, walkStack_eq, walkStack_eq, candidates_cons_of_call h,
    List.append_nil]
  cases hchain : view.chain? pattern node with
  | none => simp [hchain]
  | some found => simp [hchain]

end View

/-- In an abstract tree a member access holds its object alone. -/
theorem Tree.membersHoldObjects : Tree.view.MembersHoldObjects := by
  intro node object property h
  cases node <;> simp_all [Tree.view, Tree.shape, Tree.children]

end StoryCatalog

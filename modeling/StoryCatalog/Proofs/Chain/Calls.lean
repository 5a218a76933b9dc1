import Mathlib.Data.List.Perm.Basic
import StoryCatalog.Proofs.Chain.Candidates

/-!
# The calls of a tree and the links of the candidates

`calls` lists every call of a tree, at whatever depth. A call that is offered stands for its whole
spine, and what is walked after it holds the other calls below it (`calls_perm_spine`). Over a walk
this adds up: the spines of the candidates are together a rearrangement of all calls
(`candidates_spine_perm`).
-/

namespace StoryCatalog

namespace View

open Chain

variable {N : Type} (view : View N)

/-- An identifier has no children. -/
def IdentifiersAreLeaves : Prop :=
  ∀ ⦃node name⦄, view.shape node = .identifier name → view.children node = []

/-- The calls of a tree, each with the calls below it behind it. -/
def calls (node : N) : List N :=
  if view.isCall node then
    node :: ((view.callee? node).toList.attach.flatMap (fun part => calls part.1)
      ++ (view.arguments node).attach.flatMap fun part => calls part.1)
  else (view.children node).attach.flatMap fun part => calls part.1
termination_by view.size node
decreasing_by
  · exact view.size_lt_of_mem_parts (view.mem_parts_of_mem_callee part.2)
  · exact view.size_lt_of_mem_parts (view.mem_parts_of_mem_arguments part.2)
  · exact view.size_lt_of_mem_children part.2

variable {view} {pattern : Pattern}

theorem calls_of_call {node : N} (h : view.isCall node = true) :
    view.calls node =
      node :: ((view.callee? node).toList.flatMap view.calls
        ++ (view.arguments node).flatMap view.calls) := by
  rw [calls, if_pos h]
  simp only [List.flatMap_subtype, List.unattach_attach]

theorem calls_of_not_call {node : N} (h : view.isCall node = false) :
    view.calls node = (view.children node).flatMap view.calls := by
  rw [calls, if_neg (by simp [h])]
  simp only [List.flatMap_subtype, List.unattach_attach]

/-- A name that is called holds no calls. -/
theorem calls_callee_of_isGroupCall (hleaf : view.IdentifiersAreLeaves) {node : N}
    (h : view.isGroupCall pattern node = true) :
    (view.callee? node).toList.flatMap view.calls = [] := by
  unfold isGroupCall at h
  split at h
  · exact absurd h (by simp)
  · rename_i callee hcallee
    split at h
    · rename_i name hname
      have hcall : view.isCall callee = false := by simp [isCall, hname]
      rw [hcallee, Option.toList_some, List.flatMap_singleton, calls_of_not_call hcall,
        hleaf hname, List.flatMap_nil]
    · exact absurd h (by simp)

/-- The calls of a tree whose top is offered: its spine, and the calls in what is walked after
it. -/
theorem calls_perm_spine (hmember : view.MembersHoldObjects) (hleaf : view.IdentifiersAreLeaves)
    {node : N} (hcall : view.isCall node = true) :
    (view.calls node).Perm
      (view.spine node ++ (view.pending (view.recognize pattern node)).flatMap view.calls) := by
  rw [pending_recognize]
  induction node using view.spine_induction with
  | last node hnone =>
      rw [calls_of_call hcall, terminal?, spine_of_none hnone, base_of_none hnone]
      cases hgroup : view.isGroupCall pattern node with
      -- the callee of a group call is passed over, and has no calls
      | true => simp [calls_callee_of_isGroupCall hleaf hgroup]
      | false => simp
  | link node inner hsome ih =>
      obtain ⟨callee, property, hcallee, hshape, hinner⟩ := receiver?_eq_some_iff.mp hsome
      have hbelow : view.calls callee = view.calls inner := by
        rw [calls_of_not_call (not_isCall_of_member hshape), hmember hshape, Option.toList_some,
          List.flatMap_singleton]
      rw [calls_of_call hcall, hcallee, Option.toList_some, List.flatMap_singleton, hbelow]
      have hstep := (ih hinner).append_right ((view.arguments node).flatMap view.calls)
      simpa [terminal?, base_of_some hsome, spine_of_some hsome, spineArguments] using hstep

/-- The spines of the candidates of a walk are together the calls of its nodes. -/
theorem candidates_spine_perm (hmember : view.MembersHoldObjects)
    (hleaf : view.IdentifiersAreLeaves) (stack : List N) :
    ((view.candidates pattern stack).flatMap view.spine).Perm (stack.flatMap view.calls) := by
  fun_induction View.candidates view pattern stack with
  | case1 => exact .nil
  | case2 node rest hcall ih =>
      rw [List.flatMap_append] at ih
      rw [List.flatMap_cons, List.flatMap_cons]
      refine (ih.append_left _).trans ?_
      rw [← List.append_assoc]
      exact (calls_perm_spine hmember hleaf hcall).symm.append_right _
  | case3 node rest hcall ih =>
      rw [List.flatMap_cons, calls_of_not_call (by simpa using hcall), ← List.flatMap_append]
      exact ih

end View

end StoryCatalog

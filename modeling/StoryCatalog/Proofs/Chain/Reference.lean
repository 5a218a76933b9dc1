import Mathlib.Data.List.Basic
import StoryCatalog.Proofs.Chain.Candidates

/-!
# The walk against its recursive description

`plainWalk` describes which chains a tree has by recursion over the tree. Every call is offered to
the recogniser, also a call on the spine of one that was no chain. The walk with a stack leaves such
calls out and goes on at the callee where the descent ended. `found_walk_eq_plainWalk` says that
both find the same chains in the same order.
-/

namespace StoryCatalog

namespace View

open Chain

variable {N : Type} (view : View N) (pattern : Pattern)

/-- The chains of a tree by recursion. A call that is a chain comes before what the arguments of its
links hold, the group call first. Any other call is walked like other nodes: its callee and then its
arguments. -/
def plainWalk (node : N) : List (Match N) :=
  if view.isCall node then
    match _hfound : view.recognize pattern node with
    | .matched found =>
        found :: (view.spineArguments found.links).attach.flatMap fun part => plainWalk part.1
    | .mismatched _ =>
        (view.callee? node).toList.attach.flatMap (fun part => plainWalk part.1)
          ++ (view.arguments node).attach.flatMap fun part => plainWalk part.1
  else (view.children node).attach.flatMap fun part => plainWalk part.1
termination_by view.size node
decreasing_by
  · exact view.size_lt_of_mem_pending pattern (by simpa [_hfound, pending] using part.2)
  · exact view.size_lt_of_mem_parts (view.mem_parts_of_mem_callee part.2)
  · exact view.size_lt_of_mem_parts (view.mem_parts_of_mem_arguments part.2)
  · exact view.size_lt_of_mem_children part.2

variable {view pattern}

theorem plainWalk_of_not_call {node : N} (h : view.isCall node = false) :
    view.plainWalk pattern node = (view.children node).flatMap (view.plainWalk pattern) := by
  rw [plainWalk, if_neg (by simp [h])]
  simp only [List.flatMap_subtype, List.unattach_attach]

theorem plainWalk_of_matched {node : N} {found : Match N} (hcall : view.isCall node = true)
    (h : view.recognize pattern node = .matched found) :
    view.plainWalk pattern node =
      found :: (view.spineArguments found.links).flatMap (view.plainWalk pattern) := by
  rw [plainWalk, if_pos hcall]
  split
  · rename_i other hother
    rw [h] at hother
    cases hother
    simp only [List.flatMap_subtype, List.unattach_attach]
  · rename_i other hother
    rw [h] at hother
    cases hother

theorem plainWalk_of_mismatched {node : N} {found : Mismatch N} (hcall : view.isCall node = true)
    (h : view.recognize pattern node = .mismatched found) :
    view.plainWalk pattern node =
      (view.callee? node).toList.flatMap (view.plainWalk pattern)
        ++ (view.arguments node).flatMap (view.plainWalk pattern) := by
  rw [plainWalk, if_pos hcall]
  split
  · rename_i other hother
    rw [h] at hother
    cases hother
  · simp only [List.flatMap_subtype, List.unattach_attach]

/-- After a mismatch the walk goes on at the terminal and the arguments of the whole spine. This is
what walking the callee and the arguments of the call comes to, one link at a time. -/
theorem found_pending_of_not_group (hmember : view.MembersHoldObjects) {node : N}
    (hgroup : view.isGroupCall pattern (view.base node) = false) :
    ((view.pending (view.recognize pattern node)).flatMap fun part =>
        (view.walk pattern part).found) =
      ((view.callee? node).toList.flatMap fun part => (view.walk pattern part).found)
        ++ (view.arguments node).flatMap fun part => (view.walk pattern part).found := by
  rw [pending_recognize]
  cases hreceiver : view.receiver? node with
  | none =>
      rw [terminal?, if_neg (by simp [hgroup]), spine_of_none hreceiver, base_of_none hreceiver]
      simp
  | some inner =>
      obtain ⟨callee, property, hcallee, hshape, hinner⟩ := receiver?_eq_some_iff.mp hreceiver
      have hbase : view.base node = view.base inner := base_of_some hreceiver
      -- the callee holds nothing but the receiver, and the receiver shares base and terminal
      have hwalk : (view.walk pattern callee).found =
          (view.pending (view.recognize pattern inner)).flatMap fun part =>
            (view.walk pattern part).found := by
        rw [found_walk_of_not_call (not_isCall_of_member hshape), hmember hshape,
          Option.toList_some, List.flatMap_singleton, found_walk_of_call hinner]
        simp [chain?, ← hbase, hgroup]
      rw [hcallee, Option.toList_some, List.flatMap_singleton, hwalk, pending_recognize]
      simp [terminal?, hbase, spine_of_some hreceiver, spineArguments]

/-- Walking with a stack, and passing over the calls of a spine that has been gone down, finds
exactly the chains of the recursive description, in the same order. -/
theorem found_walk_eq_plainWalk (hmember : view.MembersHoldObjects) (root : N) :
    (view.walk pattern root).found = view.plainWalk pattern root := by
  -- Induction is on the size, not on the recursion of the description: the walk goes on at parts
  -- far below the root, at the end of its spine.
  induction hsize : view.size root using Nat.strongRecOn generalizing root with
  | ind size ih =>
      subst hsize
      have hpart : ∀ part, view.size part < view.size root →
          (view.walk pattern part).found = view.plainWalk pattern part :=
        fun part hlt => ih _ hlt part rfl
      cases hcall : view.isCall root with
      | false =>
          rw [found_walk_of_not_call hcall, plainWalk_of_not_call hcall]
          exact List.flatMap_congr fun part h => hpart part (view.size_lt_of_mem_children h)
      | true =>
          rw [found_walk_of_call hcall]
          cases hgroup : view.isGroupCall pattern (view.base root) with
          | true =>
              have hfound := recognize_of_group hgroup
              have hpending : view.pending (view.recognize pattern root) =
                  view.spineArguments (view.chain pattern root).links := by
                rw [hfound]
                rfl
              rw [plainWalk_of_matched hcall hfound, chain?_of_matched hfound, Option.toList_some,
                List.singleton_append, ← hpending]
              congr 1
              exact List.flatMap_congr fun part h =>
                hpart part (view.size_lt_of_mem_pending pattern h)
          | false =>
              have hfound := recognize_of_not_group hgroup
              rw [plainWalk_of_mismatched hcall hfound, chain?_of_mismatched hfound,
                Option.toList_none, List.nil_append, found_pending_of_not_group hmember hgroup]
              congr 1
              · exact List.flatMap_congr fun part h =>
                  hpart part (view.size_lt_of_mem_parts (view.mem_parts_of_mem_callee h))
              · exact List.flatMap_congr fun part h =>
                  hpart part (view.size_lt_of_mem_parts (view.mem_parts_of_mem_arguments h))

end View

/-- The tree of `foo(storiesOf('A')).bar(storiesOf('B'))`: a spine that is no chain, with a chain
among the arguments of each of its calls. -/
def Tree.chainsInArguments : Tree :=
  .call
    (some (.member
      (some (.call (some (.identifier "foo" ⟨0, 3⟩))
        [.call (some (.identifier "storiesOf" ⟨4, 13⟩)) [.string "A" ⟨14, 17⟩] ⟨4, 18⟩] ⟨0, 19⟩))
      (some "bar") ⟨0, 23⟩))
    [.call (some (.identifier "storiesOf" ⟨24, 33⟩)) [.string "B" ⟨34, 37⟩] ⟨24, 38⟩] ⟨0, 39⟩

/-- Both walks find the two chains in the order of the source. -/
theorem Tree.found_chainsInArguments :
    (Tree.view.walk .standard chainsInArguments).found =
        Tree.view.plainWalk .standard chainsInArguments ∧
      (Tree.view.plainWalk .standard chainsInArguments).map (fun found => found.kind.name) =
        ["A", "B"] := by
  have hwalk : (Tree.view.walk .standard chainsInArguments).found =
      Tree.view.plainWalk .standard chainsInArguments :=
    View.found_walk_eq_plainWalk Tree.membersHoldObjects chainsInArguments
  refine ⟨hwalk, ?_⟩
  rw [← hwalk]
  decide +kernel

end StoryCatalog

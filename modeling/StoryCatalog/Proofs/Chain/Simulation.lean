import StoryCatalog.Proofs.Chain.Candidates
import StoryCatalog.Proofs.Pointwise

/-!
# Two views of one program

A relation between the nodes of two views is a simulation when related nodes have the same shape and
their children show the same program. A list of nodes may show a program with layers around its
nodes that the other view does not have (`Covers`): the walk passes them without offering anything.
`Simulates.candidates` says that both walks then offer related calls in the same order, and
`Simulates.found` that they find related chains.
-/

namespace StoryCatalog

open Chain

/-- Two shapes agree when they differ only in the nodes they mention, and those are related. -/
inductive Shape.Agree {N M : Type} (R : N → M → Prop) : Shape N → Shape M → Prop where
  | call {callee : Option N} {other : Option M} {arguments : List N} {others : List M} :
      Option.Rel R callee other → List.Forall₂ R arguments others →
      Agree R (.call callee arguments) (.call other others)
  | member {object : Option N} {other : Option M} (property : Option Text) :
      Option.Rel R object other → Agree R (.member object property) (.member other property)
  | identifier (name : Text) : Agree R (.identifier name) (.identifier name)
  | string (value : Text) : Agree R (.string value) (.string value)
  | other : Agree R .other .other

/-- Two named spans agree when they have the same name and are the spans of related nodes. -/
def NamedSpan.Agree {N M : Type} (first : View N) (second : View M) (R : N → M → Prop)
    (declared declared' : NamedSpan) : Prop :=
  declared.name = declared'.name ∧
    ∃ node other, R node other ∧ declared.span = first.span node ∧
      declared'.span = second.span other

/-- The nodes are related and are member accesses. -/
def View.RelatedMembers {N M : Type} (second : View M) (R : N → M → Prop) (node : N) (other : M) :
    Prop :=
  R node other ∧ ∃ object property, second.shape other = .member object property

/-- Two chains agree when their links are related, and what they declare agrees. -/
structure Chain.Match.Agree {N M : Type} (first : View N) (second : View M) (R : N → M → Prop)
    (found : Match N) (found' : Match M) : Prop where
  kind : NamedSpan.Agree first second R found.kind found'.kind
  stories : List.Forall₂ (NamedSpan.Agree first second (second.RelatedMembers R)) found.stories
    found'.stories
  links : List.Forall₂ R found.links found'.links

namespace View

variable {N M : Type}

/-- A list of nodes covers a list of nodes of another view when the second is left of the first
after some nodes that are no calls have been replaced by what their children cover. -/
inductive Covers (view : View N) (R : N → M → Prop) : List N → List M → Prop where
  | nil : Covers view R [] []
  | node {node : N} {other : M} {nodes : List N} {others : List M} :
      R node other → Covers view R nodes others → Covers view R (node :: nodes) (other :: others)
  | layer {node : N} {inner : List M} {nodes : List N} {others : List M} :
      view.isCall node = false → Covers view R (view.children node) inner →
      Covers view R nodes others → Covers view R (node :: nodes) (inner ++ others)

/-- Related nodes have shapes that agree, and their children show the same program. -/
structure Simulates (first : View N) (second : View M) (R : N → M → Prop) : Prop where
  shape : ∀ {node other}, R node other → Shape.Agree R (first.shape node) (second.shape other)
  children : ∀ {node other}, R node other → first.isCall node = false →
    first.Covers R (first.children node) (second.children other)

section Covers

variable {view : View N} {R : N → M → Prop}

/-- What covers two lists covers them together. -/
theorem Covers.append {nodes more : List N} {others rest : List M} (h : view.Covers R nodes others)
    (hmore : view.Covers R more rest) : view.Covers R (nodes ++ more) (others ++ rest) := by
  induction h with
  | nil => exact hmore
  | node hnode _ ih => exact .node hnode ih
  | layer hcall hinner _ _ ih =>
      rw [List.cons_append, List.append_assoc]
      exact .layer hcall hinner ih

/-- Lists that are related node by node cover each other. -/
theorem Covers.of_forall₂ {nodes : List N} {others : List M} (h : List.Forall₂ R nodes others) :
    view.Covers R nodes others := by
  induction h with
  | nil => exact .nil
  | cons hnode _ ih => exact .node hnode ih

/-- A node that is no call and covers nothing can stand anywhere. -/
theorem Covers.skip {node : N} {nodes : List N} {others : List M} (hcall : view.isCall node = false)
    (hnode : view.Covers R (view.children node) []) (h : view.Covers R nodes others) :
    view.Covers R (node :: nodes) others :=
  .layer hcall hnode h

end Covers

namespace Simulates

variable {first : View N} {second : View M} {R : N → M → Prop} {pattern : Pattern} {node : N}
  {other : M}

/-- Both views see the same calls. -/
theorem isCall_eq (h : first.Simulates second R) (hR : R node other) :
    first.isCall node = second.isCall other := by
  have hagree := h.shape hR
  unfold isCall
  generalize first.shape node = shape at hagree
  generalize second.shape other = shape' at hagree
  cases hagree <;> rfl

/-- Both views see related callees. -/
theorem callee? (h : first.Simulates second R) (hR : R node other) :
    Option.Rel R (first.callee? node) (second.callee? other) := by
  have hagree := h.shape hR
  unfold View.callee?
  generalize first.shape node = shape at hagree
  generalize second.shape other = shape' at hagree
  cases hagree with
  | call hcallee _ => exact hcallee
  | _ => exact .none

/-- Both views see related arguments. -/
theorem arguments (h : first.Simulates second R) (hR : R node other) :
    List.Forall₂ R (first.arguments node) (second.arguments other) := by
  have hagree := h.shape hR
  unfold View.arguments
  generalize first.shape node = shape at hagree
  generalize second.shape other = shape' at hagree
  cases hagree with
  | call _ harguments => exact harguments
  | _ => exact .nil

/-- Receivers are related, because they are objects of related callees. -/
theorem receiver? (h : first.Simulates second R) (hR : R node other) :
    Option.Rel R (first.receiver? node) (second.receiver? other) := by
  have hcallees := h.callee? hR
  unfold View.receiver?
  generalize first.callee? node = callee at hcallees
  generalize second.callee? other = callee' at hcallees
  cases hcallees with
  | none => exact .none
  | @some callee callee' hcallee =>
      have hagree := h.shape hcallee
      dsimp only
      generalize first.shape callee = shape at hagree
      generalize second.shape callee' = shape' at hagree
      cases hagree with
      | member property hobject =>
          cases hobject with
          | none => exact .none
          | some hobject =>
              simp only [h.isCall_eq hobject]
              split
              · exact .some hobject
              · exact .none
      | _ => exact .none

/-- Where one view sees no receiver, neither does the other. -/
theorem receiver?_none (h : first.Simulates second R) (hR : R node other)
    (hnone : first.receiver? node = none) : second.receiver? other = none := by
  have hrel := h.receiver? hR
  cases hother : second.receiver? other with
  | none => rfl
  | some inner =>
      rw [hnone, hother] at hrel
      cases hrel

/-- Where one view sees a receiver, the other sees a related one. -/
theorem receiver?_some (h : first.Simulates second R) (hR : R node other) {inner : N}
    (hsome : first.receiver? node = some inner) :
    ∃ inner', second.receiver? other = some inner' ∧ R inner inner' := by
  have hrel := h.receiver? hR
  cases hother : second.receiver? other with
  | none =>
      rw [hsome, hother] at hrel
      cases hrel
  | some inner' =>
      rw [hsome, hother] at hrel
      cases hrel with
      | some hinner => exact ⟨inner', rfl, hinner⟩

/-- The spines of related calls are related link by link. -/
theorem spine (h : first.Simulates second R) (hR : R node other) :
    List.Forall₂ R (first.spine node) (second.spine other) := by
  induction node using first.spine_induction generalizing other with
  | last node hnone =>
      rw [spine_of_none hnone, spine_of_none (h.receiver?_none hR hnone)]
      exact .cons hR .nil
  | link node inner hsome ih =>
      obtain ⟨inner', hsome', hinner⟩ := h.receiver?_some hR hsome
      rw [spine_of_some hsome, spine_of_some hsome']
      exact .cons hR (ih hinner)

/-- The spines of related calls end in related calls. -/
theorem base (h : first.Simulates second R) (hR : R node other) :
    R (first.base node) (second.base other) := by
  induction node using first.spine_induction generalizing other with
  | last node hnone =>
      rw [base_of_none hnone, base_of_none (h.receiver?_none hR hnone)]
      exact hR
  | link node inner hsome ih =>
      obtain ⟨inner', hsome', hinner⟩ := h.receiver?_some hR hsome
      rw [base_of_some hsome, base_of_some hsome']
      exact ih hinner

/-- Both views see the same group calls. -/
theorem isGroupCall_eq (h : first.Simulates second R) (hR : R node other) :
    first.isGroupCall pattern node = second.isGroupCall pattern other := by
  have hcallees := h.callee? hR
  unfold isGroupCall
  generalize first.callee? node = callee at hcallees
  generalize second.callee? other = callee' at hcallees
  cases hcallees with
  | none => rfl
  | @some callee callee' hcallee =>
      have hagree := h.shape hcallee
      dsimp only
      generalize first.shape callee = shape at hagree
      generalize second.shape callee' = shape' at hagree
      cases hagree <;> rfl

/-- The callees of story calls are related member accesses. -/
theorem storyCallee? (h : first.Simulates second R) (hR : R node other) :
    Option.Rel (second.RelatedMembers R)
      (first.storyCallee? pattern node) (second.storyCallee? pattern other) := by
  have hcallees := h.callee? hR
  unfold View.storyCallee?
  generalize first.callee? node = callee at hcallees
  generalize second.callee? other = callee' at hcallees
  cases hcallees with
  | none => exact .none
  | @some callee callee' hcallee =>
      have hagree := h.shape hcallee
      dsimp only
      generalize first.shape callee = shape at hagree
      generalize hshape : second.shape callee' = shape' at hagree
      cases hagree with
      | member property hobject =>
          cases hobject with
          | none => exact .none
          | some hobject =>
              simp only [h.isCall_eq hobject]
              split
              · exact .some ⟨hcallee, _, _, hshape⟩
              · exact .none
      | _ => exact .none

/-- Both views take the same name from their arguments. -/
theorem literalName_eq (h : first.Simulates second R) {arguments : List N} {others : List M}
    (hR : List.Forall₂ R arguments others) :
    first.literalName arguments = second.literalName others := by
  cases hR with
  | nil => rfl
  | @cons argument other _ _ hargument _ =>
      have hagree := h.shape hargument
      unfold literalName
      simp only
      generalize first.shape argument = shape at hagree
      generalize second.shape other = shape' at hagree
      cases hagree <;> rfl

/-- Both views see the same story of a call, by name and place. -/
theorem story? (h : first.Simulates second R) (hR : R node other) :
    Option.Rel (NamedSpan.Agree first second (second.RelatedMembers R))
      (first.story? pattern node) (second.story? pattern other) := by
  have hcallees : Option.Rel (second.RelatedMembers R) (first.storyCallee? pattern node)
      (second.storyCallee? pattern other) := h.storyCallee? hR
  have hname := h.literalName_eq (h.arguments hR)
  unfold View.story?
  generalize first.storyCallee? pattern node = callee at hcallees
  generalize second.storyCallee? pattern other = callee' at hcallees
  cases hcallees with
  | none => exact .none
  | some hcallee => exact .some ⟨hname, _, _, hcallee, rfl, rfl⟩

theorem shown (h : first.Simulates second R) (hR : R node other) :
    R (first.shown node) (second.shown other) := by
  have hcallees := h.callee? hR
  have harguments := h.arguments hR
  unfold View.shown
  generalize first.arguments node = arguments at harguments
  generalize second.arguments other = arguments' at harguments
  cases harguments with
  | cons hargument _ => exact hargument
  | nil =>
      generalize first.callee? node = callee at hcallees
      generalize second.callee? other = callee' at hcallees
      cases hcallees with
      | none => exact hR
      | some hcallee => exact hcallee

/-- The chains on related calls agree. -/
theorem chain (h : first.Simulates second R) (hR : R node other) :
    Match.Agree first second R (first.chain pattern node) (second.chain pattern other) where
  kind := ⟨h.literalName_eq (h.arguments (h.base hR)), _, _, h.shown (h.base hR), rfl, rfl⟩
  stories := List.rel_filterMap (fun _ _ hlink => h.story? hlink) (List.rel_reverse (h.spine hR))
  links := List.rel_reverse (h.spine hR)

/-- Either both views find a chain on related calls, and these agree, or neither does. -/
theorem chain? (h : first.Simulates second R) (hR : R node other) :
    Option.Rel (Match.Agree first second R) (first.chain? pattern node)
      (second.chain? pattern other) := by
  unfold View.chain?
  rw [h.isGroupCall_eq (h.base hR)]
  split
  · exact .some (h.chain hR)
  · exact .none

/-- Both views ask for the spans of related nodes, in one order. -/
theorem consulted (h : first.Simulates second R) (hR : R node other) :
    List.Forall₂ R (first.descend pattern node [] [] []).consulted
      (second.descend pattern other [] [] []).consulted := by
  rw [consulted_descend, consulted_descend, h.isGroupCall_eq (h.base hR)]
  refine List.rel_append (List.rel_filterMap (fun _ _ hlink => ?_) (h.spine hR)) ?_
  · exact rel_of_imp (fun _ _ hcallee => hcallee.1) (h.storyCallee? hlink)
  · split
    · exact .cons (h.shown (h.base hR)) .nil
    · exact .nil

/-- What remains to be walked after related calls is related. -/
theorem pending (h : first.Simulates second R) (hR : R node other) :
    List.Forall₂ R (first.pending (first.recognize pattern node))
      (second.pending (second.recognize pattern other)) := by
  rw [pending_recognize, pending_recognize]
  refine List.rel_append ?_ ?_
  · have hcallees := h.callee? (h.base hR)
    unfold terminal?
    rw [h.isGroupCall_eq (h.base hR)]
    split
    · exact .nil
    · generalize first.callee? (first.base node) = callee at hcallees
      generalize second.callee? (second.base other) = callee' at hcallees
      cases hcallees with
      | none => exact .nil
      | some hcallee => exact .cons hcallee .nil
  · exact List.rel_flatMap (List.rel_reverse (h.spine hR)) fun _ _ hlink => h.arguments hlink

/-- Walks over lists that show the same program offer related calls in the same order. The first
walk may take more steps, one for each layer. -/
theorem candidates (h : first.Simulates second R) {nodes : List N} {others : List M}
    (hcovers : first.Covers R nodes others) :
    List.Forall₂ R (first.candidates pattern nodes) (second.candidates pattern others) := by
  -- The measure is that of the first walk alone, which also shrinks at a layer that the second walk
  -- does not have.
  induction hsize : first.total nodes using Nat.strongRecOn generalizing nodes others with
  | ind size ih =>
      subst hsize
      cases hcovers with
      | nil => simp
      | @layer node inner nodes others hcall hinner hrest =>
          have hlt : first.total (first.children node) < first.size node := first.children_lt node
          rw [candidates_cons_of_not_call hcall]
          refine ih _ ?_ (hinner.append hrest) rfl
          simp only [total_append, total_cons]
          omega
      | @node node other nodes others hR hrest =>
          cases hcall : first.isCall node with
          | false =>
              have hlt : first.total (first.children node) < first.size node :=
                first.children_lt node
              rw [candidates_cons_of_not_call hcall,
                candidates_cons_of_not_call (by rw [← h.isCall_eq hR, hcall])]
              refine ih _ ?_ ((h.children hR hcall).append hrest) rfl
              simp only [total_append, total_cons]
              omega
          | true =>
              have hlt := first.total_pending_recognize pattern node
              rw [candidates_cons_of_call hcall,
                candidates_cons_of_call (by rw [← h.isCall_eq hR, hcall])]
              refine .cons hR (ih _ ?_ ((Covers.of_forall₂ (h.pending hR)).append hrest) rfl)
              simp only [total_append, total_cons]
              omega

/-- Walks over lists that show the same program find chains that agree. -/
theorem found (h : first.Simulates second R) {nodes : List N} {others : List M}
    (hcovers : first.Covers R nodes others) :
    List.Forall₂ (Match.Agree first second R) (first.walkStack pattern nodes).found
      (second.walkStack pattern others).found := by
  rw [walkStack_eq, walkStack_eq]
  exact List.rel_filterMap (fun _ _ hR => h.chain? hR) (h.candidates hcovers)

/-- Walks over lists that show the same program ask related nodes for their spans. -/
theorem walk_consulted (h : first.Simulates second R) {nodes : List N} {others : List M}
    (hcovers : first.Covers R nodes others) :
    List.Forall₂ R (first.walkStack pattern nodes).consulted
      (second.walkStack pattern others).consulted := by
  rw [walkStack_eq, walkStack_eq]
  exact List.rel_flatMap (h.candidates hcovers) fun _ _ hR => h.consulted hR

end Simulates

end View

end StoryCatalog

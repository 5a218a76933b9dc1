import StoryCatalog.Proofs.Syntax.Occurrence

/-!
# Every call is accounted for once

The calls of a tree are shared out among the calls that its walk offers to the recogniser, each to
the one that has it among its links (`accounted`). So every group call makes one chain, every story
call on top of it declares one story of that chain, and nothing else is found. The statement is
about occurrences, because equal subtrees may stand at several places.
-/

namespace StoryCatalog

open Chain

/-- The links of an outcome, whichever it is. -/
def Chain.Outcome.links {N : Type} : Outcome N → List N
  | .matched found => found.links
  | .mismatched found => found.links

/-- The chain that an outcome reports, if it does. -/
def Chain.Outcome.found? {N : Type} : Outcome N → Option (Match N)
  | .matched found => some found
  | .mismatched _ => none

/-- The chain with its links exchanged for what a function makes of them. -/
def Chain.Match.map {N M : Type} (f : N → M) (found : Match N) : Match M :=
  ⟨found.kind, found.stories, found.links.map f⟩

namespace View

variable {N : Type} {view : View N} {pattern : Pattern}

/-- The links of an outcome are the calls of the spine. -/
theorem links_recognize_perm (node : N) :
    (view.recognize pattern node).links.Perm (view.spine node) := by
  cases h : view.isGroupCall pattern (view.base node) with
  | true =>
      rw [recognize_of_group h]
      exact List.reverse_perm _
  | false =>
      rw [recognize_of_not_group h]
      exact .refl _

/-- A call is a chain when the recogniser reports it as one. -/
theorem found?_recognize (node : N) :
    (view.recognize pattern node).found? = view.chain? pattern node := by
  cases h : view.recognize pattern node with
  | matched found => exact (chain?_of_matched h).symm
  | mismatched found => exact (chain?_of_mismatched h).symm

/-- The chains that are found are what the recogniser reports of the calls that are offered. -/
theorem found_walk_eq_filterMap (root : N) :
    (view.walk pattern root).found =
      (view.walk pattern root).offered.filterMap fun node =>
        (view.recognize pattern node).found? := by
  simp only [walk, walkStack_eq, found?_recognize]

/-- The chains that are found are those of the candidates on top of a group call. -/
theorem mem_found_iff {root : N} {found : Match N} :
    found ∈ (view.walk pattern root).found ↔
      ∃ node ∈ view.candidates pattern [root],
        view.isGroupCall pattern (view.base node) = true ∧ view.chain pattern node = found := by
  rw [walk, walkStack_eq, List.mem_filterMap]
  simp [chain?]

theorem isCall_of_isGroupCall {node : N} (h : view.isGroupCall pattern node = true) :
    view.isCall node = true := by
  unfold isGroupCall at h
  split at h
  · exact absurd h (by simp)
  · rename_i callee hcallee
    exact isCall_of_shape (shape_of_callee? hcallee)

theorem isCall_of_isStoryCall {node : N} (h : view.isStoryCall pattern node = true) :
    view.isCall node = true := by
  obtain ⟨callee, hstory⟩ := Option.isSome_iff_exists.mp h
  exact isCall_of_shape (shape_of_callee? (storyCallee?_eq_some_iff.mp hstory).1)

/-- A group call is the base of a spine that it is on. -/
theorem base_of_isGroupCall {node : N} (h : view.isGroupCall pattern node = true) :
    view.base node = node :=
  base_of_none (receiver?_of_isGroupCall h)

end View

namespace Tree

open Occurrence

/-- How the calls of a tree are shared out by its walk. -/
structure Accounted (pattern : Pattern) (tree : Tree) : Prop where
  /-- Following occurrences does not change what is offered. -/
  offered_eq : (Tree.view.walk pattern tree).offered =
    (Occurrence.view.walk pattern (top tree)).offered.map Occurrence.node
  /-- Following occurrences does not change what is found. -/
  found_eq : (Tree.view.walk pattern tree).found =
    (Occurrence.view.walk pattern (top tree)).found.map (Match.map Occurrence.node)
  /-- What is found is what the recogniser reports of the calls that were offered. -/
  found_eq_filterMap : (Tree.view.walk pattern tree).found =
    (Tree.view.walk pattern tree).offered.filterMap fun node =>
      (Tree.view.recognize pattern node).found?
  /-- No call is a link of two calls that were offered, or twice a link of one. -/
  nodup_links : ((Occurrence.view.walk pattern (top tree)).offered.flatMap fun node =>
    (Occurrence.view.recognize pattern node).links).Nodup
  /-- The links of the calls that were offered are the calls of the tree. -/
  mem_links_iff : ∀ o, (∃ node ∈ (Occurrence.view.walk pattern (top tree)).offered,
      o ∈ (Occurrence.view.recognize pattern node).links) ↔
    o.In tree ∧ Occurrence.view.isCall o = true
  /-- No group call is the first link of two chains. -/
  nodup_heads : ((Occurrence.view.walk pattern (top tree)).found.map fun found =>
    found.links.head?).Nodup
  /-- The first links of the chains are the group calls of the tree. -/
  mem_heads_iff : ∀ head, (∃ found ∈ (Occurrence.view.walk pattern (top tree)).found,
      found.links.head? = head) ↔
    ∃ o, head = some o ∧ o.In tree ∧ Occurrence.view.isGroupCall pattern o = true
  /-- A chain has one story for each story call among its links. -/
  stories_eq : ∀ found ∈ (Occurrence.view.walk pattern (top tree)).found,
    found.stories.map some = (found.links.filter (Occurrence.view.isStoryCall pattern)).map
      (Occurrence.view.story? pattern)
  /-- A link belongs to the chain of the group call at the end of its spine. -/
  head_eq_base : ∀ found ∈ (Occurrence.view.walk pattern (top tree)).found, ∀ o ∈ found.links,
    found.links.head? = some (Occurrence.view.base o)
  /-- No story call is a link of two chains, or twice a link of one. -/
  nodup_story_calls : ((Occurrence.view.walk pattern (top tree)).found.flatMap fun found =>
    found.links.filter (Occurrence.view.isStoryCall pattern)).Nodup
  /-- The story calls among the links are those whose spine ends in a group call. -/
  mem_story_calls_iff : ∀ o, (∃ found ∈ (Occurrence.view.walk pattern (top tree)).found,
      o ∈ found.links ∧ Occurrence.view.isStoryCall pattern o = true) ↔
    o.In tree ∧ Occurrence.view.isStoryCall pattern o = true ∧
      Occurrence.view.isGroupCall pattern (Occurrence.view.base o) = true

variable (pattern : Pattern) (tree : Tree)

/-- The topmost occurrence of a tree covers the tree. -/
theorem covers_top : Occurrence.view.Covers (fun o tree => o.node = tree) [top tree] [tree] :=
  .node rfl .nil

/-- The walk offers the trees of the occurrences that the walk over occurrences offers. -/
theorem offered_eq_map_node :
    (Tree.view.walk pattern tree).offered =
      (Occurrence.view.walk pattern (top tree)).offered.map Occurrence.node := by
  rw [View.offered_walk, View.offered_walk]
  exact eq_map_of_forall₂ (simulates.candidates (covers_top tree))

/-- Named spans that agree are equal, because an occurrence has the span of its node. -/
theorem eq_of_agree {R : Occurrence → Tree → Prop} (hR : ∀ o tree, R o tree → o.node = tree)
    {declared declared' : NamedSpan}
    (h : NamedSpan.Agree Occurrence.view Tree.view R declared declared') :
    declared = declared' := by
  obtain ⟨hname, o, tree, hnode, hspan, hspan'⟩ := h
  cases hR o tree hnode
  cases declared
  cases declared'
  simp only at hname hspan hspan'
  rw [hname, hspan, hspan']
  rfl

/-- The walk finds the chains that the walk over occurrences finds, read as trees. -/
theorem found_eq_map_node :
    (Tree.view.walk pattern tree).found =
      (Occurrence.view.walk pattern (top tree)).found.map (Match.map Occurrence.node) := by
  refine eq_map_of_forall₂ ((simulates.found (covers_top tree)).imp ?_)
  rintro ⟨kind, stories, links⟩ ⟨kind', stories', links'⟩ ⟨hkind, hstories, hlinks⟩
  have hkind : kind = kind' := eq_of_agree (fun _ _ h => h) hkind
  have hstories : stories = stories' :=
    List.forall₂_eq_eq_eq ▸ hstories.imp fun _ _ h => eq_of_agree (fun _ _ h => h.1) h
  rw [Match.map, hkind, hstories, ← eq_map_of_forall₂ hlinks]

/-- The spines of the candidates are together the calls of the tree. -/
theorem spines_perm_calls :
    ((Occurrence.view.candidates pattern [top tree]).flatMap Occurrence.view.spine).Perm
      (Occurrence.view.calls (top tree)) := by
  rw [← List.flatMap_singleton Occurrence.view.calls (top tree)]
  exact View.candidates_spine_perm Occurrence.membersHoldObjects identifiersAreLeaves [top tree]

/-- A call of the tree is on the spine of a candidate. -/
theorem mem_spines_iff (o : Occurrence) :
    (∃ node ∈ Occurrence.view.candidates pattern [top tree], o ∈ Occurrence.view.spine node) ↔
      o.In tree ∧ Occurrence.view.isCall o = true := by
  rw [← List.mem_flatMap, (spines_perm_calls pattern tree).mem_iff, mem_calls_iff, below_top_iff]

/-- The spines of the candidates have no call twice, and no two of them share one. -/
theorem nodup_spines :
    (∀ node ∈ Occurrence.view.candidates pattern [top tree], (Occurrence.view.spine node).Nodup) ∧
      (Occurrence.view.candidates pattern [top tree]).Pairwise fun first second =>
        (Occurrence.view.spine first).Disjoint (Occurrence.view.spine second) := by
  have h := (spines_perm_calls pattern tree).nodup_iff.mpr (nodup_calls _)
  exact List.nodup_flatMap.mp h

/-- No two chains share a link. -/
theorem pairwise_disjoint_links :
    (Occurrence.view.walk pattern (top tree)).found.Pairwise fun first second =>
      first.links.Disjoint second.links := by
  rw [View.walk, View.walkStack_eq, List.pairwise_filterMap]
  refine (nodup_spines pattern tree).2.imp ?_
  intro first second hdisjoint found hfound found' hfound' o h h'
  unfold View.chain? at hfound hfound'
  split at hfound <;> split at hfound' <;> cases hfound <;> cases hfound'
  exact hdisjoint (List.mem_reverse.mp h) (List.mem_reverse.mp h')

/-- No two chains start at one occurrence of a group call. -/
theorem nodup_heads :
    ((Occurrence.view.walk pattern (top tree)).found.map fun found => found.links.head?).Nodup := by
  refine List.pairwise_map.mpr ((pairwise_disjoint_links pattern tree).imp_of_mem ?_)
  intro first second hfirst hsecond hdisjoint heq
  obtain ⟨node, _, _, rfl⟩ := View.mem_found_iff.mp hfirst
  have hhead : (Occurrence.view.chain pattern node).links.head? =
      some (Occurrence.view.base node) :=
    View.head?_reverse_spine node
  rw [hhead] at heq
  exact hdisjoint (List.mem_of_mem_head? hhead) (List.mem_of_mem_head? heq.symm)

/-- The occurrences at which a chain starts are the group calls of the tree. -/
theorem mem_heads_iff (head : Option Occurrence) :
    (∃ found ∈ (Occurrence.view.walk pattern (top tree)).found, found.links.head? = head) ↔
      ∃ o, head = some o ∧ o.In tree ∧ Occurrence.view.isGroupCall pattern o = true := by
  constructor
  · rintro ⟨found, hmem, rfl⟩
    obtain ⟨node, hnode, hgroup, rfl⟩ := View.mem_found_iff.mp hmem
    refine ⟨Occurrence.view.base node, View.head?_reverse_spine node, ?_, hgroup⟩
    have hspine : Occurrence.view.base node ∈ Occurrence.view.spine node := by
      obtain ⟨above, hspine⟩ := Occurrence.view.exists_spine_eq node
      simp [hspine]
    exact ((mem_spines_iff pattern tree _).mp ⟨node, hnode, hspine⟩).1
  · rintro ⟨o, rfl, hin, hgroup⟩
    obtain ⟨node, hnode, hspine⟩ :=
      (mem_spines_iff pattern tree o).mpr ⟨hin, View.isCall_of_isGroupCall hgroup⟩
    have hbase : Occurrence.view.base node = o := by
      rw [← View.base_of_mem_spine hspine, View.base_of_isGroupCall hgroup]
    refine ⟨Occurrence.view.chain pattern node, View.mem_found_iff.mpr ⟨node, hnode, ?_, rfl⟩, ?_⟩
    · rw [hbase, hgroup]
    · rw [← hbase]
      exact View.head?_reverse_spine node

/-- The story calls of the chains are those of the tree whose spine ends in a group call. -/
theorem mem_story_calls_iff (o : Occurrence) :
    (∃ found ∈ (Occurrence.view.walk pattern (top tree)).found,
        o ∈ found.links ∧ Occurrence.view.isStoryCall pattern o = true) ↔
      o.In tree ∧ Occurrence.view.isStoryCall pattern o = true ∧
        Occurrence.view.isGroupCall pattern (Occurrence.view.base o) = true := by
  constructor
  · rintro ⟨found, hmem, hlink, hstory⟩
    obtain ⟨node, hnode, hgroup, rfl⟩ := View.mem_found_iff.mp hmem
    have hspine : o ∈ Occurrence.view.spine node := List.mem_reverse.mp hlink
    refine ⟨((mem_spines_iff pattern tree o).mp ⟨node, hnode, hspine⟩).1, hstory, ?_⟩
    rw [View.base_of_mem_spine hspine, hgroup]
  · rintro ⟨hin, hstory, hgroup⟩
    obtain ⟨node, hnode, hspine⟩ :=
      (mem_spines_iff pattern tree o).mpr ⟨hin, View.isCall_of_isStoryCall hstory⟩
    rw [View.base_of_mem_spine hspine] at hgroup
    exact ⟨_, View.mem_found_iff.mpr ⟨node, hnode, hgroup, rfl⟩, List.mem_reverse.mpr hspine,
      hstory⟩

/-- No occurrence of a story call belongs to two chains, or twice to one. -/
theorem nodup_story_calls :
    ((Occurrence.view.walk pattern (top tree)).found.flatMap fun found =>
      found.links.filter (Occurrence.view.isStoryCall pattern)).Nodup := by
  refine List.nodup_flatMap.mpr ⟨?_, (pairwise_disjoint_links pattern tree).imp ?_⟩
  · intro found hmem
    obtain ⟨node, hnode, _, rfl⟩ := View.mem_found_iff.mp hmem
    exact (List.nodup_reverse.mpr ((nodup_spines pattern tree).1 node hnode)).filter _
  · intro first second hdisjoint o h h'
    exact hdisjoint (List.mem_of_mem_filter h) (List.mem_of_mem_filter h')

/-- The stories of a list of calls, one for each story call. -/
theorem map_some_filterMap_story? (links : List Occurrence) :
    (links.filterMap (Occurrence.view.story? pattern)).map some =
      (links.filter (Occurrence.view.isStoryCall pattern)).map
        (Occurrence.view.story? pattern) := by
  induction links with
  | nil => rfl
  | cons link rest ih =>
      cases h : Occurrence.view.storyCallee? pattern link with
      | none => simp [View.story?, View.isStoryCall, h, ih]
      | some callee => simp [View.story?, View.isStoryCall, h, ih]

/-- The walk of a tree accounts for every call exactly once. -/
theorem accounted : Accounted pattern tree where
  offered_eq := offered_eq_map_node pattern tree
  found_eq := found_eq_map_node pattern tree
  found_eq_filterMap := View.found_walk_eq_filterMap tree
  nodup_links := by
    rw [View.offered_walk]
    refine List.Perm.nodup_iff ?_ |>.mpr (nodup_calls (top tree))
    exact (List.Perm.flatMap_left _ fun node _ => View.links_recognize_perm node).trans
      (spines_perm_calls pattern tree)
  mem_links_iff := by
    intro o
    rw [View.offered_walk, ← mem_spines_iff pattern tree o]
    simp only [(View.links_recognize_perm _).mem_iff]
  nodup_heads := nodup_heads pattern tree
  mem_heads_iff := mem_heads_iff pattern tree
  stories_eq := by
    intro found hmem
    obtain ⟨node, _, _, rfl⟩ := View.mem_found_iff.mp hmem
    exact map_some_filterMap_story? pattern _
  head_eq_base := by
    intro found hmem o hlink
    obtain ⟨node, _, _, rfl⟩ := View.mem_found_iff.mp hmem
    rw [View.base_of_mem_spine (List.mem_reverse.mp hlink)]
    exact View.head?_reverse_spine node
  nodup_story_calls := nodup_story_calls pattern tree
  mem_story_calls_iff := mem_story_calls_iff pattern tree

end Tree

end StoryCatalog

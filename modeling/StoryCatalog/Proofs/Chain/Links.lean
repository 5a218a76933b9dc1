import StoryCatalog.Proofs.Chain.SourceOrder

/-!
# All links of a descent share its end

A descent from a link of another descent is the lower part of it, so both end at the same base. When
that is no group call, both break for the same reason at the same callee. When it is, both are
chains of the same kind, and the lower one declares the stories of its own links
(`recognize_links`). For this reason a walk need not offer the links of a candidate again.
-/

namespace StoryCatalog

namespace View

open Chain

variable {N : Type} {view : View N} {pattern : Pattern}

/-- The spine of a call on a spine is the part of that spine from there on. -/
theorem spine_of_split {node link : N} {above below : List N}
    (h : view.spine node = above ++ link :: below) : view.spine link = link :: below := by
  induction node using view.spine_induction generalizing above with
  | last node hnone =>
      rw [spine_of_none hnone] at h
      rcases List.cons_eq_append_iff.mp h with ⟨rfl, heq⟩ | ⟨_, _, heq⟩
      · obtain ⟨rfl, rfl⟩ := List.cons.inj heq
        exact spine_of_none hnone
      · simp at heq
  | link node inner hsome ih =>
      rw [spine_of_some hsome] at h
      rcases List.cons_eq_append_iff.mp h with ⟨rfl, heq⟩ | ⟨_, _, heq⟩
      · obtain ⟨rfl, rfl⟩ := List.cons.inj heq
        exact spine_of_some hsome
      · exact ih heq

theorem base_of_split {node link : N} {above below : List N}
    (h : view.spine node = above ++ link :: below) : view.base link = view.base node :=
  base_of_mem_spine (by simp [h])

/-- A link of a call that is no chain is none either: its descent is the rest of the same way, and
it ends at the same callee for the same reason. -/
theorem recognize_link_of_mismatched {node : N} {broken : Mismatch N}
    (h : view.recognize pattern node = .mismatched broken) {above below : List N} {link : N}
    (hlinks : broken.links = above ++ link :: below) :
    view.recognize pattern link =
      .mismatched ⟨broken.reason, link :: below, broken.terminal⟩ := by
  cases hgroup : view.isGroupCall pattern (view.base node) with
  | true =>
      rw [recognize_of_group hgroup] at h
      cases h
  | false =>
      rw [recognize_of_not_group hgroup] at h
      cases h
      have hbase := base_of_split hlinks
      rw [recognize_of_not_group (by rw [hbase, hgroup]), hbase, spine_of_split hlinks]

/-- A link of a chain is the chain of the links up to it, with the stories that these declare. -/
theorem recognize_link_of_matched {node : N} {found : Match N}
    (h : view.recognize pattern node = .matched found) {below above : List N} {link : N}
    (hlinks : found.links = below ++ link :: above) :
    view.recognize pattern link =
        .matched ⟨found.kind, (below ++ [link]).filterMap (view.story? pattern),
          below ++ [link]⟩ ∧
      found.stories = (below ++ [link]).filterMap (view.story? pattern) ++
        above.filterMap (view.story? pattern) := by
  cases hgroup : view.isGroupCall pattern (view.base node) with
  | false =>
      rw [recognize_of_not_group hgroup] at h
      cases h
  | true =>
      rw [recognize_of_group hgroup] at h
      cases h
      -- the links of a chain are its spine from the base up
      have hspine : view.spine node = above.reverse ++ link :: below.reverse := by
        rw [← List.reverse_reverse (view.spine node)]
        simp [show (view.spine node).reverse = below ++ link :: above from hlinks]
      have hbase := base_of_split hspine
      have hlink : (view.spine link).reverse = below ++ [link] := by
        simp [spine_of_split hspine]
      constructor
      · rw [recognize_of_group (by rw [hbase, hgroup]), chain, hbase, hlink]
        rfl
      · rw [← List.filterMap_append, List.append_assoc, List.singleton_append, ← hlinks]
        rfl

/-- Whatever the tree, the call and the names looked for, and wherever among the links of the call
another one stands. If the call is no chain, the link is none for the same reason, at the same
terminal, and its links are those of the call from there on. If the call is a chain, the link is a
chain of the same kind, its links are those of the call up to there, and its stories are the first
ones of the call: those that these links declare. -/
theorem recognize_links (view : View N) (pattern : Pattern) (node : N) :
    (∀ broken, view.recognize pattern node = .mismatched broken →
        ∀ above link below, broken.links = above ++ link :: below →
          view.recognize pattern link =
            .mismatched ⟨broken.reason, link :: below, broken.terminal⟩) ∧
      ∀ found, view.recognize pattern node = .matched found →
        ∀ below link above, found.links = below ++ link :: above →
          view.recognize pattern link =
              .matched ⟨found.kind, (below ++ [link]).filterMap (view.story? pattern),
                below ++ [link]⟩ ∧
            found.stories = (below ++ [link]).filterMap (view.story? pattern) ++
              above.filterMap (view.story? pattern) :=
  ⟨fun _ h _ _ _ hlinks => recognize_link_of_mismatched h hlinks,
    fun _ h _ _ _ hlinks => recognize_link_of_matched h hlinks⟩

end View

namespace NestedChains

open Chain

/-- The call below the last story of the chain. -/
def firstStory : Tree :=
  methodCall (groupCall 2 "A") "add" 20 (.string "x" ⟨21, 24⟩) 24

/-- The call at the base of the spine that is no chain. -/
def plainCall : Tree :=
  .call (some (.identifier "f" ⟨0, 1⟩)) [chain] ⟨0, 35⟩

theorem receivers :
    Tree.view.receiver? chain = some firstStory ∧
      Tree.view.receiver? firstStory = some (groupCall 2 "A") ∧
      Tree.view.receiver? (groupCall 2 "A") = none ∧
      Tree.view.receiver? tree = some plainCall ∧ Tree.view.receiver? plainCall = none :=
  ⟨rfl, rfl, rfl, rfl, rfl⟩

theorem recognize_chain :
    Tree.view.recognize .standard chain =
      .matched ⟨⟨"A", ⟨12, 15⟩⟩, [⟨"x", ⟨2, 20⟩⟩, ⟨"y", ⟨2, 29⟩⟩],
        [groupCall 2 "A", firstStory, chain]⟩ := by
  obtain ⟨hchain, hfirst, hgroup, _, _⟩ := receivers
  have hspine : Tree.view.spine chain = [chain, firstStory, groupCall 2 "A"] := by
    rw [View.spine_of_some hchain, View.spine_of_some hfirst, View.spine_of_none hgroup]
  have hbase : Tree.view.base chain = groupCall 2 "A" := by
    rw [View.base_of_some hchain, View.base_of_some hfirst, View.base_of_none hgroup]
  rw [View.recognize_of_group (by rw [hbase]; decide), View.chain, hbase, hspine]
  rfl

theorem recognize_tree :
    Tree.view.recognize .standard tree =
      .mismatched ⟨.rootIs "f", [tree, plainCall], some (.identifier "f" ⟨0, 1⟩)⟩ := by
  obtain ⟨_, _, _, htree, hplain⟩ := receivers
  have hspine : Tree.view.spine tree = [tree, plainCall] := by
    rw [View.spine_of_some htree, View.spine_of_none hplain]
  have hbase : Tree.view.base tree = plainCall := by
    rw [View.base_of_some htree, View.base_of_none hplain]
  rw [View.recognize_of_not_group (by rw [hbase]; decide), hbase, hspine]
  rfl

/-- The call below the last story is the chain of the first one, and the base of the spine that is
no chain is none because of the same name. -/
theorem recognize_inner :
    Tree.view.recognize .standard chain =
        .matched ⟨⟨"A", ⟨12, 15⟩⟩, [⟨"x", ⟨2, 20⟩⟩, ⟨"y", ⟨2, 29⟩⟩],
          [groupCall 2 "A"] ++ firstStory :: [chain]⟩ ∧
      Tree.view.recognize .standard firstStory =
        .matched ⟨⟨"A", ⟨12, 15⟩⟩, [⟨"x", ⟨2, 20⟩⟩], [groupCall 2 "A", firstStory]⟩ ∧
      Tree.view.recognize .standard tree =
        .mismatched ⟨.rootIs "f", [tree] ++ plainCall :: [], some (.identifier "f" ⟨0, 1⟩)⟩ ∧
      Tree.view.recognize .standard plainCall =
        .mismatched ⟨.rootIs "f", [plainCall], some (.identifier "f" ⟨0, 1⟩)⟩ := by
  have hchain := (View.recognize_links Tree.view .standard chain).2 _ recognize_chain
  have htree := (View.recognize_links Tree.view .standard tree).1 _ recognize_tree
  exact ⟨recognize_chain, (hchain [groupCall 2 "A"] firstStory [chain] rfl).1, recognize_tree,
    htree [tree] plainCall [] rfl⟩

end NestedChains

end StoryCatalog

import StoryCatalog.Proofs.Chain.Stories
import StoryCatalog.Syntax.Tree

/-!
# Chains come in the order of the source

`View.Ordered` says that the spans of a tree are those of a text that was read: no span is empty,
what a node consists of lies inside it, in order and without overlap, and the object of a member
access ends before the access does. In such a tree the walk finds the chains in the order of their
group calls, every chain has its stories in the order in which they end, and laying out the stories
keeps both orders (`walk_in_source_order`).

What remains to be walked after a call is offered lies in order inside the call, because each call
of a spine lies before the arguments of the next one (`inOrder_pending`). Order inside the parts is
then order inside the whole (`InSourceOrder.flatMap`).
-/

namespace StoryCatalog

open Chain

namespace Span

/-- The first span lies inside the second one. -/
structure Within (inner outer : Span) : Prop where
  start_le : outer.start ≤ inner.start
  stop_le : inner.stop ≤ outer.stop

instance (inner outer : Span) : Decidable (inner.Within outer) :=
  decidable_of_iff (outer.start ≤ inner.start ∧ inner.stop ≤ outer.stop)
    ⟨fun h => ⟨h.1, h.2⟩, fun h => ⟨h.start_le, h.stop_le⟩⟩

theorem Within.refl (span : Span) : span.Within span :=
  ⟨Int.le_refl _, Int.le_refl _⟩

theorem Within.trans {a b c : Span} (h : a.Within b) (h' : b.Within c) : a.Within c :=
  ⟨Int.le_trans h'.start_le h.start_le, Int.le_trans h.stop_le h'.stop_le⟩

end Span

namespace View

variable {N : Type} (view : View N)

/-- The nodes lie inside a node, in order and without overlap. -/
structure InOrder (node : N) (parts : List N) : Prop where
  within : ∀ part ∈ parts, (view.span part).Within (view.span node)
  apart : parts.Pairwise fun first second => (view.span first).stop ≤ (view.span second).start

instance (node : N) (parts : List N) : Decidable (view.InOrder node parts) :=
  decidable_of_iff ((∀ part ∈ parts, (view.span part).Within (view.span node)) ∧
      parts.Pairwise fun first second => (view.span first).stop ≤ (view.span second).start)
    ⟨fun h => ⟨h.1, h.2⟩, fun h => ⟨h.within, h.apart⟩⟩

/-- The spans of a tree are well formed. The callee of a call is the first of its parts, so it lies
before the arguments. -/
inductive Ordered : N → Prop
  | mk {node : N} (filled : (view.span node).start < (view.span node).stop)
      (parts : view.InOrder node (view.shape node).parts)
      (children : view.InOrder node (view.children node))
      (object : ∀ object property, view.shape node = .member (some object) property →
        (view.span object).stop < (view.span node).stop)
      (parts_ordered : ∀ part ∈ (view.shape node).parts, Ordered part)
      (children_ordered : ∀ child ∈ view.children node, Ordered child) : Ordered node

/-- The spans of a tree are well formed, as a test. -/
def isOrdered (node : N) : Bool :=
  decide ((view.span node).start < (view.span node).stop)
    && decide (view.InOrder node (view.shape node).parts)
    && decide (view.InOrder node (view.children node))
    && (match view.shape node with
      | .member (some object) _ => decide ((view.span object).stop < (view.span node).stop)
      | _ => true)
    && ((view.shape node).parts.attach.all fun part => isOrdered part.1)
    && (view.children node).attach.all fun child => isOrdered child.1
termination_by view.size node
decreasing_by
  · exact view.size_lt_of_mem_parts part.2
  · exact view.size_lt_of_mem_children child.2

theorem isOrdered_iff {node : N} : view.isOrdered node = true ↔ view.Ordered node := by
  constructor
  · intro h
    induction hsize : view.size node using Nat.strongRecOn generalizing node with
    | ind size ih =>
        subst hsize
        rw [isOrdered] at h
        simp only [Bool.and_eq_true, decide_eq_true_eq, List.all_eq_true] at h
        obtain ⟨⟨⟨⟨⟨hfilled, hparts⟩, hchildren⟩, hobject⟩, hparts_ordered⟩, hchildren_ordered⟩ := h
        refine .mk hfilled hparts hchildren ?_ ?_ ?_
        · intro object property hshape
          simpa [hshape] using hobject
        · intro part hpart
          exact ih _ (view.size_lt_of_mem_parts hpart)
            (hparts_ordered ⟨part, hpart⟩ (List.mem_attach _ _)) rfl
        · intro child hchild
          exact ih _ (view.size_lt_of_mem_children hchild)
            (hchildren_ordered ⟨child, hchild⟩ (List.mem_attach _ _)) rfl
  · intro h
    induction h with
    | @mk node filled parts children object _ _ ih_parts ih_children =>
        rw [isOrdered]
        simp only [Bool.and_eq_true, decide_eq_true_eq, List.all_eq_true]
        refine ⟨⟨⟨⟨⟨filled, parts⟩, children⟩, ?_⟩, ?_⟩, ?_⟩
        · split
          · rename_i inner property hshape
            exact decide_eq_true (object inner property hshape)
          · rfl
        · exact fun part _ => ih_parts part.1 part.2
        · exact fun child _ => ih_children child.1 child.2

instance : DecidablePred view.Ordered :=
  fun _ => decidable_of_iff _ view.isOrdered_iff

/-- The group call of the first chain starts before that of the second one. -/
def HeadBefore (first second : Match N) : Prop :=
  ∃ head ∈ first.links.head?, ∃ head' ∈ second.links.head?,
    (view.span head).start < (view.span head').start

/-- The stories of a chain end one after the other. -/
def StoriesAscend (found : Match N) : Prop :=
  found.stories.Pairwise fun first second => first.span.stop < second.span.stop

/-- One story stands before another: its chain does, or it ends first in the same chain. -/
def Precedes (first second : Match N × NamedSpan) : Prop :=
  view.HeadBefore first.1 second.1 ∨
    first.1 = second.1 ∧ first.2.span.stop < second.2.span.stop

/-- Chains whose group calls start inside a node come in the order of the source. -/
structure InSourceOrder (node : N) (found : List (Match N)) : Prop where
  heads : ∀ chain ∈ found, ∃ head ∈ chain.links.head?,
    (view.span node).start ≤ (view.span head).start ∧
      (view.span head).start < (view.span node).stop
  ascending : found.Pairwise view.HeadBefore
  stories : ∀ chain ∈ found, StoriesAscend chain

variable {view} {pattern : Pattern}

/-! ## Parts of an ordered node -/

theorem Ordered.filled {node : N} (h : view.Ordered node) :
    (view.span node).start < (view.span node).stop := by
  cases h with
  | mk filled _ _ _ _ _ => exact filled

/-- The children of an ordered node come in order and are ordered themselves. -/
theorem Ordered.inOrder_children {node : N} (h : view.Ordered node) :
    view.InOrder node (view.children node) ∧ ∀ child ∈ view.children node, view.Ordered child := by
  cases h with
  | mk _ _ children _ _ children_ordered => exact ⟨children, children_ordered⟩

/-- The callee and the arguments of a call are parts of it. -/
theorem call_parts_sublist (view : View N) (node : N) :
    ((view.callee? node).toList ++ view.arguments node).Sublist (view.shape node).parts := by
  cases hcall : view.isCall node with
  | true =>
      conv => rhs; rw [isCall_iff.mp hcall]
      exact List.Sublist.refl _
  | false =>
      have hnone : view.callee? node = none := by
        cases hcallee : view.callee? node with
        | none => rfl
        | some callee =>
            rw [isCall_of_shape (shape_of_callee? hcallee)] at hcall
            cases hcall
      rw [hnone, view.arguments_of_not_call hcall]
      exact List.nil_sublist _

/-- The callee and the arguments of an ordered node are in order and ordered. -/
theorem Ordered.call {node : N} (h : view.Ordered node) :
    view.InOrder node ((view.callee? node).toList ++ view.arguments node) ∧
      ∀ part ∈ (view.callee? node).toList ++ view.arguments node, view.Ordered part := by
  have hsub := view.call_parts_sublist node
  cases h with
  | mk _ parts _ _ parts_ordered _ =>
      exact ⟨⟨fun part hpart => parts.within part (hsub.subset hpart), parts.apart.sublist hsub⟩,
        fun part hpart => parts_ordered part (hsub.subset hpart)⟩

/-- The callee of an ordered call lies inside it, before each of its arguments. -/
theorem Ordered.callee {node callee : N} (h : view.Ordered node)
    (hcallee : view.callee? node = some callee) :
    view.Ordered callee ∧ (view.span callee).Within (view.span node) ∧
      ∀ argument ∈ view.arguments node, (view.span callee).stop ≤ (view.span argument).start := by
  obtain ⟨hparts, hordered⟩ := h.call
  rw [hcallee, Option.toList_some, List.singleton_append] at hparts hordered
  exact ⟨hordered callee List.mem_cons_self, hparts.within callee List.mem_cons_self,
    (List.pairwise_cons.mp hparts.apart).1⟩

/-- The object of an ordered member access lies inside it and ends before it. -/
theorem Ordered.object {node object : N} {property : Option Text} (h : view.Ordered node)
    (hshape : view.shape node = .member (some object) property) :
    view.Ordered object ∧ (view.span object).Within (view.span node) ∧
      (view.span object).stop < (view.span node).stop := by
  cases h with
  | mk _ parts _ before parts_ordered _ =>
      have hmem : object ∈ (view.shape node).parts := by simp [hshape, Shape.parts]
      exact ⟨parts_ordered object hmem, parts.within object hmem, before object property hshape⟩

/-- What an ordered call stands on is ordered, and ends before the callee of the call does. -/
theorem Ordered.receiver {node inner : N} (h : view.Ordered node)
    (hreceiver : view.receiver? node = some inner) :
    view.Ordered inner ∧ (view.span inner).Within (view.span node) ∧
      ∃ callee, view.callee? node = some callee ∧
        (view.span inner).stop < (view.span callee).stop := by
  obtain ⟨callee, property, hcallee, hmember, _⟩ := receiver?_eq_some_iff.mp hreceiver
  obtain ⟨hordered, hwithin, _⟩ := h.callee hcallee
  obtain ⟨hinner, hobject, hbefore⟩ := hordered.object hmember
  exact ⟨hinner, hobject.trans hwithin, callee, hcallee, hbefore⟩

/-- What an ordered call stands on ends before each argument of the call. -/
theorem Ordered.receiver_before {node inner : N} (h : view.Ordered node)
    (hreceiver : view.receiver? node = some inner) :
    ∀ argument ∈ view.arguments node, (view.span inner).stop ≤ (view.span argument).start := by
  obtain ⟨_, _, callee, hcallee, hbefore⟩ := h.receiver hreceiver
  obtain ⟨_, _, harguments⟩ := h.callee hcallee
  intro argument hargument
  have := harguments argument hargument
  omega

/-! ## The spine of an ordered call -/

/-- The base of an ordered call is ordered and lies within the call. -/
theorem Ordered.base {node : N} (h : view.Ordered node) :
    view.Ordered (view.base node) ∧ (view.span (view.base node)).Within (view.span node) := by
  induction node using view.spine_induction with
  | last node hnone =>
      rw [base_of_none hnone]
      exact ⟨h, .refl _⟩
  | link node inner hsome ih =>
      obtain ⟨hinner, hwithin, _⟩ := h.receiver hsome
      obtain ⟨hbase, hbelow⟩ := ih hinner
      rw [base_of_some hsome]
      exact ⟨hbase, hbelow.trans hwithin⟩

/-- What is left to be walked of a call grows by the arguments of each call on top. -/
theorem pending_of_receiver {node inner : N} (h : view.receiver? node = some inner) :
    view.pending (view.recognize pattern node) =
      view.pending (view.recognize pattern inner) ++ view.arguments node := by
  rw [pending_recognize, pending_recognize, terminal?, terminal?, base_of_some h, spine_of_some h]
  simp [spineArguments]

/-- Without a call below it, no more is left to be walked of a call than its callee and its
arguments. -/
theorem pending_of_receiver?_none (pattern : Pattern) {node : N}
    (h : view.receiver? node = none) :
    (view.pending (view.recognize pattern node)).Sublist
      ((view.callee? node).toList ++ view.arguments node) := by
  rw [pending_recognize, terminal?, base_of_none h, spine_of_none h]
  split
  · simp
  · simp

/-- What is left to be walked of an ordered call lies in order inside it. -/
theorem inOrder_pending (pattern : Pattern) {node : N} (h : view.Ordered node) :
    view.InOrder node (view.pending (view.recognize pattern node)) ∧
      ∀ part ∈ view.pending (view.recognize pattern node), view.Ordered part := by
  induction node using view.spine_induction with
  | last node hnone =>
      have hsub := pending_of_receiver?_none pattern hnone
      obtain ⟨hparts, hordered⟩ := h.call
      exact ⟨⟨fun part hpart => hparts.within part (hsub.subset hpart), hparts.apart.sublist hsub⟩,
        fun part hpart => hordered part (hsub.subset hpart)⟩
  | link node inner hsome ih =>
      obtain ⟨hinner, hwithin, _⟩ := h.receiver hsome
      obtain ⟨hbelow, hordered⟩ := ih hinner
      obtain ⟨hparts, hparts_ordered⟩ := h.call
      have hbefore := h.receiver_before hsome
      rw [pending_of_receiver hsome]
      refine ⟨⟨?_, List.pairwise_append.mpr ⟨hbelow.apart, ?_, ?_⟩⟩, ?_⟩
      · intro part hpart
        rcases List.mem_append.mp hpart with hpart | hpart
        · exact (hbelow.within part hpart).trans hwithin
        · exact hparts.within part (List.mem_append_right _ hpart)
      · exact hparts.apart.sublist (List.sublist_append_right _ _)
      · intro part hpart argument hargument
        have := (hbelow.within part hpart).stop_le
        have := hbefore argument hargument
        omega
      · intro part hpart
        rcases List.mem_append.mp hpart with hpart | hpart
        · exact hordered part hpart
        · exact hparts_ordered part (List.mem_append_right _ hpart)

/-- What is left to be walked of a chain starts behind the start of its group call. -/
theorem base_start_lt_of_mem_pending {node : N} (h : view.Ordered node)
    (hgroup : view.isGroupCall pattern (view.base node) = true) :
    ∀ part ∈ view.pending (view.recognize pattern node),
      (view.span (view.base node)).start < (view.span part).start := by
  induction node using view.spine_induction with
  | last node hnone =>
      intro part hpart
      have hpending : view.pending (view.recognize pattern node) = view.arguments node := by
        rw [pending_recognize, terminal?, if_pos hgroup, spine_of_none hnone]
        simp
      rw [hpending] at hpart
      rw [base_of_none hnone] at hgroup ⊢
      -- the name that is called is not empty, and lies before the arguments
      cases hcallee : view.callee? node with
      | none => simp [isGroupCall, hcallee] at hgroup
      | some callee =>
          obtain ⟨hordered, hwithin, hbefore⟩ := h.callee hcallee
          have := hwithin.start_le
          have := hordered.filled
          have := hbefore part hpart
          omega
  | link node inner hsome ih =>
      obtain ⟨hinner, _, _⟩ := h.receiver hsome
      rw [base_of_some hsome] at hgroup ⊢
      intro part hpart
      rw [pending_of_receiver hsome] at hpart
      rcases List.mem_append.mp hpart with hpart | hpart
      · exact ih hinner hgroup part hpart
      · obtain ⟨hbase, hwithin⟩ := hinner.base
        have := hwithin.stop_le
        have := hbase.filled
        have := h.receiver_before hsome part hpart
        omega

/-! ## The stories of a chain -/

/-- The stories of a call are those of the call that it stands on, and its own. -/
theorem stories_chain_of_receiver {node inner : N} (h : view.receiver? node = some inner) :
    (view.chain pattern node).stories =
      (view.chain pattern inner).stories ++ (view.story? pattern node).toList := by
  rw [chain, chain, spine_of_some h, List.reverse_cons, List.filterMap_append]
  cases hstory : view.story? pattern node <;> simp [hstory]

/-- The story of a call ends where its callee ends. -/
theorem stop_of_story? {node : N} {story : NamedSpan} (h : view.story? pattern node = some story) :
    ∃ callee, view.callee? node = some callee ∧ story.span.stop = (view.span callee).stop := by
  obtain ⟨callee, hcallee, rfl⟩ := Option.map_eq_some_iff.mp h
  exact ⟨callee, (storyCallee?_eq_some_iff.mp hcallee).1, rfl⟩

/-- The stories of an ordered call end one after the other, and inside the call. -/
theorem storiesAscend_chain {node : N} (h : view.Ordered node) :
    StoriesAscend (view.chain pattern node) ∧
      ∀ story ∈ (view.chain pattern node).stories, story.span.stop ≤ (view.span node).stop := by
  induction node using view.spine_induction with
  | last node hnone =>
      have hstories : (view.chain pattern node).stories = [] := by
        simp [chain, spine_of_none hnone, story?, storyCallee?_of_receiver?_none hnone]
      rw [StoriesAscend, hstories]
      exact ⟨.nil, by simp⟩
  | link node inner hsome ih =>
      obtain ⟨hinner, hwithin, callee, hcallee, hbefore⟩ := h.receiver hsome
      obtain ⟨hascend, hbound⟩ := ih hinner
      have hcallee_within := (h.callee hcallee).2.1
      have hown : ∀ story ∈ view.story? pattern node,
          story.span.stop = (view.span callee).stop := by
        intro story hstory
        obtain ⟨other, hother, hstop⟩ := stop_of_story? hstory
        rw [hcallee] at hother
        cases hother
        exact hstop
      rw [StoriesAscend, stories_chain_of_receiver hsome]
      refine ⟨List.pairwise_append.mpr ⟨hascend, ?_, ?_⟩, ?_⟩
      · cases view.story? pattern node with
        | none => exact .nil
        | some story => exact List.pairwise_singleton _ _
      · intro first hfirst second hsecond
        have := hbound first hfirst
        have := hown second (Option.mem_toList.mp hsecond)
        omega
      · intro story hstory
        rcases List.mem_append.mp hstory with hstory | hstory
        · exact Int.le_trans (hbound story hstory) hwithin.stop_le
        · rw [hown story (Option.mem_toList.mp hstory)]
          exact hcallee_within.stop_le

/-! ## The walk -/

/-- Chains that come in order in each part come in order in the whole. -/
theorem InSourceOrder.flatMap {node : N} {parts : List N} {chains : N → List (Match N)}
    (hparts : view.InOrder node parts) (h : ∀ part ∈ parts, view.InSourceOrder part (chains part)) :
    view.InSourceOrder node (parts.flatMap chains) where
  heads := by
    intro chain hchain
    obtain ⟨part, hpart, hmem⟩ := List.mem_flatMap.mp hchain
    obtain ⟨head, hhead, hstart, hstop⟩ := (h part hpart).heads chain hmem
    have hwithin := hparts.within part hpart
    exact ⟨head, hhead, Int.le_trans hwithin.start_le hstart,
      Int.lt_of_lt_of_le hstop hwithin.stop_le⟩
  ascending := by
    refine List.pairwise_flatMap.mpr ⟨fun part hpart => (h part hpart).ascending, ?_⟩
    refine hparts.apart.imp_of_mem ?_
    intro first second hfirst hsecond hapart chain hchain other hother
    obtain ⟨head, hhead, _, hstop⟩ := (h first hfirst).heads chain hchain
    obtain ⟨head', hhead', hstart, _⟩ := (h second hsecond).heads other hother
    exact ⟨head, hhead, head', hhead', by omega⟩
  stories := by
    intro chain hchain
    obtain ⟨part, hpart, hmem⟩ := List.mem_flatMap.mp hchain
    exact (h part hpart).stories chain hmem

/-- A chain comes before the chains of what is left to be walked of it. -/
theorem InSourceOrder.cons_chain {node : N} (h : view.Ordered node)
    (hgroup : view.isGroupCall pattern (view.base node) = true) {chains : N → List (Match N)}
    (hchains : ∀ part ∈ view.pending (view.recognize pattern node),
      view.InSourceOrder part (chains part)) :
    view.InSourceOrder node (view.chain pattern node ::
      (view.pending (view.recognize pattern node)).flatMap chains) := by
  have hrest := InSourceOrder.flatMap (inOrder_pending pattern h).1 hchains
  have hhead : view.base node ∈ (view.chain pattern node).links.head? := head?_reverse_spine node
  obtain ⟨hbase, hwithin⟩ := h.base
  have hfilled := hbase.filled
  have hstart := hwithin.start_le
  have hstop := hwithin.stop_le
  refine ⟨List.forall_mem_cons.mpr ⟨?_, hrest.heads⟩, List.pairwise_cons.mpr ⟨?_, hrest.ascending⟩,
    List.forall_mem_cons.mpr ⟨(storiesAscend_chain h).1, hrest.stories⟩⟩
  · exact ⟨view.base node, hhead, hstart, by omega⟩
  · intro other hother
    obtain ⟨part, hpart, hmem⟩ := List.mem_flatMap.mp hother
    obtain ⟨head, hother_head, hother_start, _⟩ := (hchains part hpart).heads other hmem
    have hlt := base_start_lt_of_mem_pending h hgroup part hpart
    exact ⟨view.base node, hhead, head, hother_head, by omega⟩

/-- The chains of an ordered tree come in the order of the source. -/
theorem inSourceOrder_walk (pattern : Pattern) {root : N} (h : view.Ordered root) :
    view.InSourceOrder root (view.walk pattern root).found := by
  -- Induction is on the size, because the walk goes on below the end of a spine.
  induction hsize : view.size root using Nat.strongRecOn generalizing root with
  | ind size ih =>
      subst hsize
      cases hcall : view.isCall root with
      | false =>
          obtain ⟨hchildren, hordered⟩ := h.inOrder_children
          rw [found_walk_of_not_call hcall]
          exact .flatMap hchildren fun child hchild =>
            ih _ (view.size_lt_of_mem_children hchild) (hordered child hchild) rfl
      | true =>
          obtain ⟨hpending, hordered⟩ := inOrder_pending pattern h
          have hparts : ∀ part ∈ view.pending (view.recognize pattern root),
              view.InSourceOrder part (view.walk pattern part).found := fun part hpart =>
            ih _ (view.size_lt_of_mem_pending pattern hpart) (hordered part hpart) rfl
          rw [found_walk_of_call hcall, chain?]
          cases hgroup : view.isGroupCall pattern (view.base root) with
          | true => exact .cons_chain h hgroup hparts
          | false => exact .flatMap hpending hparts

/-- Stories of chains that come in order come in order. -/
theorem InSourceOrder.declared {root : N} {found : List (Match N)}
    (h : view.InSourceOrder root found) : (Chain.declared found).Pairwise view.Precedes := by
  refine List.pairwise_flatMap.mpr ⟨fun chain hchain => ?_, h.ascending.imp ?_⟩
  · rw [List.pairwise_map]
    exact (h.stories chain hchain).imp fun hlt => .inr ⟨rfl, hlt⟩
  · intro first second hbefore story hstory other hother
    obtain ⟨_, _, rfl⟩ := List.mem_map.mp hstory
    obtain ⟨_, _, rfl⟩ := List.mem_map.mp hother
    exact .inl hbefore

/-- Whatever the names looked for: in a tree with well-formed spans the walk finds the chains in the
order in which their group calls start, the stories of every chain stand in the order in which they
end, and whatever resolves the offsets, the stories that are laid out are those of the chains, one
for one and in both orders. -/
theorem walk_in_source_order (pattern : Pattern) {root : N} (h : view.Ordered root) :
    (view.walk pattern root).found.Pairwise view.HeadBefore ∧
      (∀ found ∈ (view.walk pattern root).found, StoriesAscend found) ∧
      ∀ resolve stories,
        flatten pattern resolve ((view.walk pattern root).found.map Match.declaration) =
            .ok stories →
          List.Forall₂ (fun entry story =>
              Story.ofSpan pattern resolve entry.1.kind.name entry.2 = .ok story)
            (Chain.declared (view.walk pattern root).found) stories ∧
          (Chain.declared (view.walk pattern root).found).Pairwise view.Precedes := by
  have horder := inSourceOrder_walk pattern h
  refine ⟨horder.ascending, horder.stories, fun resolve stories hstories => ?_⟩
  rw [flatten_eq_mapM] at hstories
  exact ⟨(forall₂_of_mapM_eq_ok hstories).flip, horder.declared⟩

end View

/-! The tree of `f(storiesOf('A').add('x').add('y')).g(storiesOf('B'))`: a chain with two stories
among the arguments at the base of a spine that is no chain, and a chain on top of that spine. -/

namespace NestedChains

def source : Text := "f(storiesOf('A').add('x').add('y')).g(storiesOf('B'))"

/-- A group call that starts here and names a kind of one character. -/
def groupCall (start : Int) (kind : Text) : Tree :=
  .call (some (.identifier "storiesOf" ⟨start, start + 9⟩))
    [.string kind ⟨start + 10, start + 13⟩] ⟨start, start + 14⟩

/-- A method that ends here, called with an argument that ends there. -/
def methodCall (object : Tree) (name : Text) (stop : Int) (argument : Tree) (last : Int) : Tree :=
  .call (some (.member (some object) (some name) ⟨object.span.start, stop⟩)) [argument]
    ⟨object.span.start, last + 1⟩

def chain : Tree :=
  methodCall (methodCall (groupCall 2 "A") "add" 20 (.string "x" ⟨21, 24⟩) 24) "add" 29
    (.string "y" ⟨30, 33⟩) 33

def tree : Tree :=
  methodCall (.call (some (.identifier "f" ⟨0, 1⟩)) [chain] ⟨0, 35⟩) "g" 37 (groupCall 38 "B") 52

/-- The chain inside comes before the one behind it, and its stories in the order of the text. -/
theorem in_source_order :
    Tree.view.Ordered tree ∧
      (Tree.view.walk .standard tree).found.Pairwise Tree.view.HeadBefore ∧
      (∀ found ∈ (Tree.view.walk .standard tree).found, View.StoriesAscend found) ∧
      Tree.view.storiesByOffset .standard source tree =
        .ok [⟨"A", "x", ⟨1, 18⟩⟩, ⟨"A", "y", ⟨1, 27⟩⟩] ∧
      (Chain.declared (Tree.view.walk .standard tree).found).Pairwise Tree.view.Precedes := by
  have hordered : Tree.view.Ordered tree := by decide +kernel
  have hstories : Tree.view.storiesByOffset .standard source tree =
      .ok [⟨"A", "x", ⟨1, 18⟩⟩, ⟨"A", "y", ⟨1, 27⟩⟩] := by decide +kernel
  obtain ⟨hheads, hascend, hflat⟩ := View.walk_in_source_order .standard hordered
  exact ⟨hordered, hheads, hascend, hstories, (hflat _ _ hstories).2⟩

end NestedChains

end StoryCatalog

import Mathlib.Data.List.Nodup
import StoryCatalog.Proofs.Chain.SourceOrder

/-!
# No two stories end at the same place

`View.Nested` says that the spans of a tree are well formed, in whatever order its parts stand: no
span is empty, what a node consists of lies inside it without overlap, and the object of a member
access ends before the access does. Then no two stories of a walk end at the same offset
(`Nested.nodup_stops`).

A story ends with the callee of its call. Everything that is left to be walked of a chain is an
argument of one of its calls, and the end of a callee lies in no argument: not in those of its own
call, which are apart from the callee, not in those of a call below, which end before the callee
does, and not in those of a call above, which are apart from the callee around it
(`Nested.chainApart`).
-/

namespace StoryCatalog

open Chain

namespace Span

/-- One of the spans ends before the other one starts. -/
def Apart (first second : Span) : Prop :=
  first.stop ≤ second.start ∨ second.stop ≤ first.start

instance (first second : Span) : Decidable (first.Apart second) :=
  inferInstanceAs (Decidable (_ ∨ _))

/-- Something inside the span, and not empty, can end at the offset. -/
def EndsAt (span : Span) (offset : Int) : Prop :=
  span.start < offset ∧ offset ≤ span.stop

theorem Within.endsAt {inner outer : Span} {offset : Int} (h : inner.Within outer)
    (hends : inner.EndsAt offset) : outer.EndsAt offset :=
  ⟨Int.lt_of_le_of_lt h.start_le hends.1, Int.le_trans hends.2 h.stop_le⟩

/-- What ends inside a span does not end inside one that is apart from it. -/
theorem Apart.not_endsAt {first second : Span} {offset : Int} (h : first.Apart second)
    (hfirst : first.EndsAt offset) : ¬ second.EndsAt offset := by
  intro hsecond
  obtain ⟨hstart, hstop⟩ := hfirst
  obtain ⟨hstart', hstop'⟩ := hsecond
  rcases h with h | h <;> omega

/-- What lies within a span is apart from all that the span is apart from. -/
theorem Apart.within {first second inner : Span} (h : first.Apart second)
    (hinner : inner.Within first) : inner.Apart second := by
  obtain ⟨hstart, hstop⟩ := hinner
  rcases h with h | h
  · exact .inl (by omega)
  · exact .inr (by omega)

end Span

namespace Chain.Match

/-- Where the stories of a chain end. -/
def stops {N : Type} (found : Match N) : List Int :=
  found.stories.map fun story => story.span.stop

end Chain.Match

namespace View

variable {N : Type} (view : View N)

/-- The nodes lie inside a node, without overlap. -/
structure Separate (node : N) (parts : List N) : Prop where
  within : ∀ part ∈ parts, (view.span part).Within (view.span node)
  apart : parts.Pairwise fun first second => (view.span first).Apart (view.span second)

instance (node : N) (parts : List N) : Decidable (view.Separate node parts) :=
  decidable_of_iff ((∀ part ∈ parts, (view.span part).Within (view.span node)) ∧
      parts.Pairwise fun first second => (view.span first).Apart (view.span second))
    ⟨fun h => ⟨h.1, h.2⟩, fun h => ⟨h.within, h.apart⟩⟩

/-- The spans of a tree are well formed: their ends are offsets of the source, none of them is
empty, what a node consists of lies inside it without overlap, and the object of a member access
ends before the access. -/
inductive Nested (IsOffset : Int → Prop) : N → Prop
  | mk {node : N} (start : IsOffset (view.span node).start) (stop : IsOffset (view.span node).stop)
      (filled : (view.span node).start < (view.span node).stop)
      (parts : view.Separate node (view.shape node).parts)
      (children : view.Separate node (view.children node))
      (object : ∀ object property, view.shape node = .member (some object) property →
        (view.span object).stop < (view.span node).stop)
      (parts_nested : ∀ part ∈ (view.shape node).parts, Nested IsOffset part)
      (children_nested : ∀ child ∈ view.children node, Nested IsOffset child) :
      Nested IsOffset node

variable {view} {pattern : Pattern} {IsOffset : Int → Prop}

/-! ## Parts of a well-formed node -/

theorem Separate.sublist {node : N} {parts fewer : List N} (h : view.Separate node parts)
    (hsub : fewer.Sublist parts) : view.Separate node fewer :=
  ⟨fun part hpart => h.within part (hsub.subset hpart), h.apart.sublist hsub⟩

/-- The children of a nested node are apart from one another and nested themselves. -/
theorem Nested.separate_children {node : N} (h : view.Nested IsOffset node) :
    view.Separate node (view.children node) ∧
      ∀ child ∈ view.children node, view.Nested IsOffset child := by
  cases h with
  | mk _ _ _ _ children _ _ children_nested => exact ⟨children, children_nested⟩

/-- The callee and the arguments of a well-formed node are apart and well formed. -/
theorem Nested.call {node : N} (h : view.Nested IsOffset node) :
    view.Separate node ((view.callee? node).toList ++ view.arguments node) ∧
      ∀ part ∈ (view.callee? node).toList ++ view.arguments node, view.Nested IsOffset part := by
  have hsub := view.call_parts_sublist node
  cases h with
  | mk _ _ _ parts _ _ parts_nested _ =>
      exact ⟨parts.sublist hsub, fun part hpart => parts_nested part (hsub.subset hpart)⟩

/-- Where the callee of a call lies, and where the call lies that it stands on. -/
structure StandsOn (view : View N) (IsOffset : Int → Prop) (node callee inner : N) : Prop where
  callee_eq : view.callee? node = some callee
  callee_offset : IsOffset (view.span callee).stop
  callee_within : (view.span callee).Within (view.span node)
  callee_endsAt : (view.span callee).EndsAt (view.span callee).stop
  callee_apart : ∀ argument ∈ view.arguments node, (view.span callee).Apart (view.span argument)
  inner_within : (view.span inner).Within (view.span callee)
  inner_before : (view.span inner).stop < (view.span callee).stop

/-- What a well-formed call stands on is well formed, lies inside the callee of the call and ends
before it. The callee is apart from the arguments. -/
theorem Nested.receiver {node inner : N} (h : view.Nested IsOffset node)
    (hreceiver : view.receiver? node = some inner) :
    view.Nested IsOffset inner ∧ ∃ callee, StandsOn view IsOffset node callee inner := by
  obtain ⟨callee, property, hcallee, hmember, _⟩ := receiver?_eq_some_iff.mp hreceiver
  obtain ⟨hparts, hnested⟩ := h.call
  rw [hcallee, Option.toList_some, List.singleton_append] at hparts hnested
  have hinner : inner ∈ (view.shape callee).parts := by simp [hmember, Shape.parts]
  cases hnested callee List.mem_cons_self with
  | mk _ stop filled parts _ object parts_nested _ =>
      refine ⟨parts_nested inner hinner, callee, ?_⟩
      exact {
        callee_eq := hcallee
        callee_offset := stop
        callee_within := hparts.within callee List.mem_cons_self
        callee_endsAt := ⟨filled, Int.le_refl _⟩
        callee_apart := (List.pairwise_cons.mp hparts.apart).1
        inner_within := parts.within inner hinner
        inner_before := object inner property hmember }

/-- Parts in order are apart, so an ordered tree is well formed when its spans are in the source. -/
theorem Ordered.nested {node : N} (h : view.Ordered node)
    (hoffset : ∀ offset, (view.span node).start ≤ offset → offset ≤ (view.span node).stop →
      IsOffset offset) : view.Nested IsOffset node := by
  have hseparate : ∀ {node : N} {parts : List N}, view.InOrder node parts →
      view.Separate node parts :=
    fun h => ⟨h.within, h.apart.imp .inl⟩
  induction h with
  | @mk node filled parts children object _ _ ih_parts ih_children =>
      have hinside : ∀ {part : N}, (view.span part).Within (view.span node) → ∀ offset,
          (view.span part).start ≤ offset → offset ≤ (view.span part).stop → IsOffset offset :=
        fun h offset hstart hstop => hoffset offset (Int.le_trans h.start_le hstart)
          (Int.le_trans hstop h.stop_le)
      have hle := Int.le_of_lt filled
      exact .mk (hoffset _ (Int.le_refl _) hle) (hoffset _ hle (Int.le_refl _)) filled
        (hseparate parts) (hseparate children) object
        (fun part hpart => ih_parts part hpart (hinside (parts.within part hpart)))
        (fun child hchild => ih_children child hchild (hinside (children.within child hchild)))

/-! ## Where the stories of a chain end -/

/-- The stories of a chain end inside its outermost call, one behind the other, and none of them
ends inside something that is left to be walked. -/
structure ChainApart (view : View N) (IsOffset : Int → Prop) (pattern : Pattern) (node : N) :
    Prop where
  pending : view.Separate node (view.pending (view.recognize pattern node))
  offsets : ∀ stop ∈ (view.chain pattern node).stops, IsOffset stop
  inside : ∀ stop ∈ (view.chain pattern node).stops, (view.span node).EndsAt stop
  ascending : (view.chain pattern node).stops.Pairwise (· < ·)
  outside : ∀ stop ∈ (view.chain pattern node).stops,
    ∀ part ∈ view.pending (view.recognize pattern node), ¬ (view.span part).EndsAt stop

/-- A call that stands on no other one declares no story. -/
theorem stops_chain_of_none (pattern : Pattern) {node : N} (h : view.receiver? node = none) :
    (view.chain pattern node).stops = [] := by
  simp [Match.stops, chain, spine_of_none h, story?, storyCallee?_of_receiver?_none h]

/-- The stories of a call are those of the call that it stands on, and perhaps one that ends with
its callee. -/
theorem stops_chain_of_receiver (pattern : Pattern) {node callee inner : N}
    (h : view.receiver? node = some inner) (hcallee : view.callee? node = some callee) :
    (view.chain pattern node).stops = (view.chain pattern inner).stops ∨
      (view.chain pattern node).stops =
        (view.chain pattern inner).stops ++ [(view.span callee).stop] := by
  rw [Match.stops, stories_chain_of_receiver h, List.map_append]
  cases hstory : view.story? pattern node with
  | none => exact .inl (List.append_nil _)
  | some story =>
      obtain ⟨other, hother, hstop⟩ := stop_of_story? hstory
      rw [hcallee] at hother
      cases hother
      exact .inr (by rw [← hstop]; rfl)

/-- Everything that is left to be walked of a well-formed call is well formed. -/
theorem Nested.nested_pending (pattern : Pattern) {node : N} (h : view.Nested IsOffset node) :
    ∀ part ∈ view.pending (view.recognize pattern node), view.Nested IsOffset part := by
  induction node using view.spine_induction with
  | last node hnone =>
      intro part hpart
      exact h.call.2 part ((pending_of_receiver?_none pattern hnone).subset hpart)
  | link node inner hsome ih =>
      intro part hpart
      rw [pending_of_receiver hsome] at hpart
      rcases List.mem_append.mp hpart with hpart | hpart
      · exact ih (h.receiver hsome).1 part hpart
      · exact h.call.2 part (List.mem_append_right _ hpart)

/-- One call more on top: its arguments are apart from its callee, in which everything below it
ends, and the one end that it may add, that of the callee, is behind everything below. -/
theorem ChainApart.link {node callee inner : N} (hsome : view.receiver? node = some inner)
    (hstands : StandsOn view IsOffset node callee inner)
    (harguments : view.Separate node (view.arguments node))
    (h : ChainApart view IsOffset pattern inner) : ChainApart view IsOffset pattern node := by
  have hstops := stops_chain_of_receiver pattern hsome hstands.callee_eq
  have hbelow : ∀ stop ∈ (view.chain pattern inner).stops, stop < (view.span callee).stop := by
    intro stop hstop
    exact Int.lt_of_le_of_lt (h.inside stop hstop).2 hstands.inner_before
  have hmem : ∀ stop ∈ (view.chain pattern node).stops,
      stop ∈ (view.chain pattern inner).stops ∨ stop = (view.span callee).stop := by
    intro stop hstop
    rcases hstops with heq | heq
    · exact .inl (heq ▸ hstop)
    · rw [heq, List.mem_append, List.mem_singleton] at hstop
      exact hstop
  -- every story of the chain ends in the callee, and everything from below lies in it
  have hcallee : ∀ stop ∈ (view.chain pattern node).stops, (view.span callee).EndsAt stop := by
    intro stop hstop
    rcases hmem stop hstop with hinner | rfl
    · exact hstands.inner_within.endsAt (h.inside stop hinner)
    · exact hstands.callee_endsAt
  have hpending_within : ∀ part ∈ view.pending (view.recognize pattern inner),
      (view.span part).Within (view.span callee) :=
    fun part hpart => (h.pending.within part hpart).trans hstands.inner_within
  refine ⟨?_, ?_, fun stop hstop => hstands.callee_within.endsAt (hcallee stop hstop), ?_, ?_⟩
  · rw [pending_of_receiver hsome]
    refine ⟨?_, List.pairwise_append.mpr ⟨h.pending.apart, harguments.apart, ?_⟩⟩
    · intro part hpart
      rcases List.mem_append.mp hpart with hpart | hpart
      · exact (hpending_within part hpart).trans hstands.callee_within
      · exact harguments.within part hpart
    · intro part hpart argument hargument
      exact (hstands.callee_apart argument hargument).within (hpending_within part hpart)
  · intro stop hstop
    rcases hmem stop hstop with hinner | rfl
    · exact h.offsets stop hinner
    · exact hstands.callee_offset
  · rcases hstops with heq | heq
    · exact heq ▸ h.ascending
    · rw [heq]
      refine List.pairwise_append.mpr ⟨h.ascending, List.pairwise_singleton _ _, ?_⟩
      simpa using hbelow
  · intro stop hstop part hpart
    rw [pending_of_receiver hsome] at hpart
    rcases List.mem_append.mp hpart with hpart | hpart
    · rcases hmem stop hstop with hinner | rfl
      · exact h.outside stop hinner part hpart
      · -- the callee ends behind all that is left from below
        intro hends
        have hle := (h.pending.within part hpart).stop_le
        exact absurd (Int.le_trans hends.2 hle) (Int.not_le.mpr hstands.inner_before)
    · exact (hstands.callee_apart part hpart).not_endsAt (hcallee stop hstop)

/-- In a nested tree the stories of a chain end in ascending offsets, outside what is left over. -/
theorem Nested.chainApart (pattern : Pattern) {node : N} (h : view.Nested IsOffset node) :
    ChainApart view IsOffset pattern node := by
  -- The induction goes up the spine, from a call that declares nothing.
  induction node using view.spine_induction with
  | last node hnone =>
      have hstops := stops_chain_of_none pattern hnone
      refine ⟨h.call.1.sublist (pending_of_receiver?_none pattern hnone), ?_, ?_, ?_, ?_⟩
      · simp [hstops]
      · simp [hstops]
      · simp [hstops]
      · simp [hstops]
  | link node inner hsome ih =>
      obtain ⟨hinner, callee, hstands⟩ := h.receiver hsome
      exact .link hsome hstands (h.call.1.sublist (List.sublist_append_right _ _)) (ih hinner)

/-! ## The walk -/

/-- Where the stories of chains end, in the order in which they are laid out. -/
def stops (found : List (Match N)) : List Int :=
  found.flatMap Match.stops

/-- Different stories end at different offsets of the source, all of them inside a node. -/
structure EndApart (view : View N) (IsOffset : Int → Prop) (node : N) (found : List (Match N)) :
    Prop where
  offsets : ∀ stop ∈ stops found, IsOffset stop
  inside : ∀ stop ∈ stops found, (view.span node).EndsAt stop
  nodup : (stops found).Nodup

/-- Chains whose stories end apart in each of some parts end apart in all of them together. -/
theorem EndApart.flatMap {node : N} {parts : List N} {chains : N → List (Match N)}
    (hparts : view.Separate node parts)
    (h : ∀ part ∈ parts, EndApart view IsOffset part (chains part)) :
    EndApart view IsOffset node (parts.flatMap chains) where
  offsets := by
    intro stop hstop
    rw [stops, List.flatMap_assoc] at hstop
    obtain ⟨part, hpart, hmem⟩ := List.mem_flatMap.mp hstop
    exact (h part hpart).offsets stop hmem
  inside := by
    intro stop hstop
    rw [stops, List.flatMap_assoc] at hstop
    obtain ⟨part, hpart, hmem⟩ := List.mem_flatMap.mp hstop
    exact (hparts.within part hpart).endsAt ((h part hpart).inside stop hmem)
  nodup := by
    rw [stops, List.flatMap_assoc, List.nodup_flatMap]
    refine ⟨fun part hpart => (h part hpart).nodup, hparts.apart.imp_of_mem ?_⟩
    intro first second hfirst hsecond hapart stop hstop hother
    exact hapart.not_endsAt ((h first hfirst).inside stop hstop)
      ((h second hsecond).inside stop hother)

/-- The stories of a chain end apart from those of what is left to be walked of it. -/
theorem EndApart.cons_chain {node : N} (h : ChainApart view IsOffset pattern node)
    {chains : N → List (Match N)}
    (hchains : ∀ part ∈ view.pending (view.recognize pattern node),
      EndApart view IsOffset part (chains part)) :
    EndApart view IsOffset node (view.chain pattern node ::
      (view.pending (view.recognize pattern node)).flatMap chains) := by
  have hrest := EndApart.flatMap h.pending hchains
  have hstops : ∀ rest, stops (view.chain pattern node :: rest) =
      (view.chain pattern node).stops ++ stops rest := fun _ => List.flatMap_cons
  refine ⟨?_, ?_, ?_⟩
  · intro stop hstop
    rw [hstops, List.mem_append] at hstop
    exact hstop.elim (h.offsets stop) (hrest.offsets stop)
  · intro stop hstop
    rw [hstops, List.mem_append] at hstop
    exact hstop.elim (h.inside stop) (hrest.inside stop)
  · rw [hstops, List.nodup_append]
    refine ⟨h.ascending.imp Int.ne_of_lt, hrest.nodup, ?_⟩
    rintro stop hstop other hother rfl
    rw [stops, List.flatMap_assoc] at hother
    obtain ⟨part, hpart, hmem⟩ := List.mem_flatMap.mp hother
    exact h.outside stop hstop part hpart ((hchains part hpart).inside stop hmem)

/-- In a well-formed tree no two stories of the walk end at the same offset. -/
theorem Nested.endApart_walk (pattern : Pattern) {root : N} (h : view.Nested IsOffset root) :
    EndApart view IsOffset root (view.walk pattern root).found := by
  -- Induction is on the size, because the walk goes on below the end of a spine.
  induction hsize : view.size root using Nat.strongRecOn generalizing root with
  | ind size ih =>
      subst hsize
      cases hcall : view.isCall root with
      | false =>
          obtain ⟨hchildren, hnested⟩ := h.separate_children
          rw [found_walk_of_not_call hcall]
          exact .flatMap hchildren fun child hchild =>
            ih _ (view.size_lt_of_mem_children hchild) (hnested child hchild) rfl
      | true =>
          have hchain := h.chainApart pattern
          have hparts : ∀ part ∈ view.pending (view.recognize pattern root),
              EndApart view IsOffset part (view.walk pattern part).found := fun part hpart =>
            ih _ (view.size_lt_of_mem_pending pattern hpart) (h.nested_pending pattern part hpart)
              rfl
          rw [found_walk_of_call hcall, chain?]
          cases hgroup : view.isGroupCall pattern (view.base root) with
          | true => exact .cons_chain hchain hparts
          | false => exact .flatMap hchain.pending hparts

end View

end StoryCatalog

import Mathlib.Data.List.Chain
import StoryCatalog.Proofs.Chain.Descent

/-!
# The grammar of chains

`Derives` is the grammar of chains, together with what a chain declares: a call of the group
function is a chain, and so is a call of any method on a chain. The recogniser accepts exactly what
the grammar derives and reads it back exactly. Whatever else it is given, it reports the calls on
the way down and the callee at which a derivation breaks (`recognize_iff_derives`).

The recogniser goes from the call on top down to the group call, and the grammar builds a chain from
the group call up. Both meet in `chain`, which says what the spine of a call declares.
-/

namespace StoryCatalog

namespace View

open Chain

variable {N : Type} (view : View N) (pattern : Pattern)

/-- The name that arguments give: the value of the first one when it is a string literal that is not
empty, and otherwise the name of what has none. -/
inductive Names : List N → Text → Prop
  | literal {first : N} {rest : List N} {value : Text} (hfirst : view.shape first = .string value)
      (hvalue : value ≠ []) : Names (first :: rest) value
  | unknown {arguments : List N}
      (h : ∀ first value, arguments.head? = some first → view.shape first = .string value →
        value = []) : Names arguments unknownName

/-- A node is derived as a chain that declares this kind and these stories, and has these links. The
property of a method may be anything that is not computed, named or not. -/
inductive Derives : N → Match N → Prop
  | group {node callee : N} {arguments : List N} {name : Text}
      (hnode : view.shape node = .call (some callee) arguments)
      (hcallee : view.shape callee = .identifier pattern.group)
      (hname : view.Names arguments name) :
      Derives node ⟨⟨name, view.span (arguments.headD callee)⟩, [], [node]⟩
  | story {node callee inner : N} {arguments : List N} {name : Text} {found : Match N}
      (hinner : Derives inner found) (hnode : view.shape node = .call (some callee) arguments)
      (hcallee : view.shape callee = .member (some inner) (some pattern.method))
      (hname : view.Names arguments name) :
      Derives node ⟨found.kind, found.stories ++ [⟨name, view.span callee⟩], found.links ++ [node]⟩
  | method {node callee inner : N} {arguments : List N} {property : Option Text} {found : Match N}
      (hinner : Derives inner found) (hnode : view.shape node = .call (some callee) arguments)
      (hcallee : view.shape callee = .member (some inner) property)
      (hother : property ≠ some pattern.method) :
      Derives node ⟨found.kind, found.stories, found.links ++ [node]⟩

/-- Why no chain can be derived from a callee: it is absent, it is the name of another function, it
is a member access on no call, or it is of a shape that is never called in a chain. -/
inductive Blocks : Option N → Reason → Prop
  | absent : Blocks none (.calleeIs "other")
  | name {callee : N} {name : Text} (hcallee : view.shape callee = .identifier name)
      (hother : name ≠ pattern.group) : Blocks (some callee) (.rootIs name)
  | object {callee : N} {object : Option N} {property : Option Text}
      (hcallee : view.shape callee = .member object property)
      (hobject : ∀ inner ∈ object, view.isCall inner = false) : Blocks (some callee) .objectNotCall
  | shape {callee : N} (hname : ∀ name, view.shape callee ≠ .identifier name)
      (hmember : ∀ object property, view.shape callee ≠ .member object property) :
      Blocks (some callee) (.calleeIs (view.shape callee).name)

/-- How a derivation breaks: the links go down from the node, each invoking a method on the next
one, and end at a link that invokes none on a call. The terminal is the callee of that link, and the
reason says what is wrong with it. -/
structure Breaks (node : N) (broken : Mismatch N) : Prop where
  first : broken.links.head? = some node
  descent : broken.links.IsChain fun outer inner => view.receiver? outer = some inner
  last : ∃ base, broken.links.getLast? = some base ∧ view.receiver? base = none ∧
    broken.terminal = view.callee? base
  blocks : view.Blocks pattern broken.terminal broken.reason

variable {view pattern}

/-! ## Names -/

/-- The name of some arguments is the literal they name, or none if they name none. -/
theorem names_literalName (arguments : List N) :
    view.Names arguments (view.literalName arguments) := by
  cases arguments with
  | nil => exact .unknown (by simp)
  | cons first rest =>
      cases hshape : view.shape first with
      | string value =>
          cases value with
          | nil =>
              have hname : view.literalName (first :: rest) = unknownName := by
                simp [literalName, hshape]
              rw [hname]
              refine .unknown ?_
              rintro _ value ⟨⟩ hvalue
              rw [hshape] at hvalue
              cases hvalue
              rfl
          | cons c more =>
              have hname : view.literalName (first :: rest) = c :: more := by
                simp [literalName, hshape]
              rw [hname]
              exact .literal hshape (List.cons_ne_nil _ _)
      | call | member | identifier | other =>
          have hname : view.literalName (first :: rest) = unknownName := by
            simp [literalName, hshape]
          rw [hname]
          refine .unknown ?_
          rintro _ value ⟨⟩ hvalue
          rw [hshape] at hvalue
          cases hvalue

/-- Arguments give one name only. -/
theorem Names.eq_literalName {arguments : List N} {name : Text} (h : view.Names arguments name) :
    name = view.literalName arguments := by
  cases h with
  | literal hfirst hvalue => simp [literalName, hfirst, hvalue]
  | unknown h =>
      cases arguments with
      | nil => rfl
      | cons first rest =>
          unfold literalName
          split
          · rfl
          · rename_i heq
            obtain ⟨rfl, rfl⟩ := List.cons.inj heq
            split
            · rename_i value hvalue
              simp [h first value rfl hvalue]
            · rfl

/-! ## What is derived is recognised -/

/-- Only a call can be derived as a chain. -/
theorem Derives.isCall {node : N} {found : Match N} (h : view.Derives pattern node found) :
    view.isCall node = true := by
  cases h with
  | group hnode _ _ | story _ hnode _ _ | method _ hnode _ _ => exact isCall_of_shape hnode

/-- A call of a method on a derived chain stands on that chain. -/
theorem Derives.receiver?_eq {inner : N} {found : Match N} (h : view.Derives pattern inner found)
    {node callee : N} {arguments : List N} {property : Option Text}
    (hnode : view.shape node = .call (some callee) arguments)
    (hcallee : view.shape callee = .member (some inner) property) :
    view.receiver? node = some inner :=
  receiver?_eq_some_iff.mpr ⟨callee, property, callee?_of_shape hnode, hcallee, h.isCall⟩

/-- A chain that is derived ends in a group call, and it is what the spine declares. -/
theorem Derives.eq_chain {node : N} {found : Match N} (h : view.Derives pattern node found) :
    view.isGroupCall pattern (view.base node) = true ∧ found = view.chain pattern node := by
  induction h with
  | @group node callee arguments name hnode hcallee hname =>
      have hfound : view.callee? node = some callee := callee?_of_shape hnode
      have hgroup : view.isGroupCall pattern node = true := by simp [isGroupCall, hfound, hcallee]
      have hnone := receiver?_of_isGroupCall hgroup
      rw [base_of_none hnone]
      refine ⟨hgroup, ?_⟩
      rw [hname.eq_literalName]
      simp [chain, base_of_none hnone, spine_of_none hnone, kind, shown, story?,
        storyCallee?_of_receiver?_none hnone, view.arguments_of_shape hnode, hfound]
  | @story node callee inner arguments name found hinner hnode hcallee hname ih =>
      obtain ⟨hgroup, rfl⟩ := ih
      have hsome := hinner.receiver?_eq hnode hcallee
      have hstory : view.storyCallee? pattern node = some callee :=
        storyCallee?_eq_some_iff.mpr ⟨callee?_of_shape hnode, inner, hcallee, hinner.isCall⟩
      rw [base_of_some hsome]
      refine ⟨hgroup, ?_⟩
      rw [hname.eq_literalName]
      simp [chain, base_of_some hsome, spine_of_some hsome, story?, hstory,
        view.arguments_of_shape hnode]
  | @method node callee inner arguments property found hinner hnode hcallee hother ih =>
      obtain ⟨hgroup, rfl⟩ := ih
      have hsome := hinner.receiver?_eq hnode hcallee
      have hstory : view.storyCallee? pattern node = none := by
        simp [storyCallee?, callee?_of_shape hnode, hcallee, hother]
      rw [base_of_some hsome]
      refine ⟨hgroup, ?_⟩
      simp [chain, base_of_some hsome, spine_of_some hsome, story?, hstory]

/-! ## What is recognised is derived -/

/-- A call on top of a group call is derived as the chain that its spine declares. -/
theorem derives_chain {node : N} (h : view.isGroupCall pattern (view.base node) = true) :
    view.Derives pattern node (view.chain pattern node) := by
  induction node using view.spine_induction with
  | last node hnone =>
      rw [base_of_none hnone] at h
      unfold isGroupCall at h
      split at h
      · exact absurd h (by simp)
      · rename_i callee hcallee
        split at h
        · rename_i name hname
          have hshape : view.shape callee = .identifier pattern.group := by
            rw [hname, of_decide_eq_true h]
          have hchain : view.chain pattern node =
              ⟨⟨view.literalName (view.arguments node),
                view.span ((view.arguments node).headD callee)⟩, [], [node]⟩ := by
            simp [chain, base_of_none hnone, spine_of_none hnone, kind, shown, story?,
              storyCallee?_of_receiver?_none hnone, hcallee]
          rw [hchain]
          exact .group (shape_of_callee? hcallee) hshape (names_literalName _)
        · exact absurd h (by simp)
  | link node inner hsome ih =>
      rw [base_of_some hsome] at h
      obtain ⟨callee, property, hcallee, hmember, hinner⟩ := receiver?_eq_some_iff.mp hsome
      have hnode := shape_of_callee? hcallee
      by_cases hproperty : property = some pattern.method
      · subst hproperty
        have hstory : view.storyCallee? pattern node = some callee :=
          storyCallee?_eq_some_iff.mpr ⟨hcallee, inner, hmember, hinner⟩
        have hchain : view.chain pattern node =
            ⟨(view.chain pattern inner).kind,
              (view.chain pattern inner).stories ++
                [⟨view.literalName (view.arguments node), view.span callee⟩],
              (view.chain pattern inner).links ++ [node]⟩ := by
          simp [chain, base_of_some hsome, spine_of_some hsome, story?, hstory]
        rw [hchain]
        exact .story (ih h) hnode hmember (names_literalName _)
      · have hstory : view.storyCallee? pattern node = none := by
          simp [storyCallee?, hcallee, hmember, hproperty]
        have hchain : view.chain pattern node =
            ⟨(view.chain pattern inner).kind, (view.chain pattern inner).stories,
              (view.chain pattern inner).links ++ [node]⟩ := by
          simp [chain, base_of_some hsome, spine_of_some hsome, story?, hstory]
        rw [hchain]
        exact .method (ih h) hnode hmember hproperty

/-! ## What is not derived -/

theorem head?_spine (node : N) : (view.spine node).head? = some node := by
  cases h : view.receiver? node with
  | none => rw [spine_of_none h, List.head?_cons]
  | some inner => rw [spine_of_some h, List.head?_cons]

/-- The spine of a call ends in the base of the call. -/
theorem getLast?_spine (node : N) : (view.spine node).getLast? = some (view.base node) := by
  obtain ⟨above, h⟩ := view.exists_spine_eq node
  rw [h, List.getLast?_concat]

/-- The base of a call has no receiver, so no chain goes on below it. -/
theorem receiver?_base (node : N) : view.receiver? (view.base node) = none := by
  induction node using view.spine_induction with
  | last node h => rw [base_of_none h, h]
  | link node inner h ih => rw [base_of_some h, ih]

/-- The spine goes down from receiver to receiver. -/
theorem isChain_spine (node : N) :
    (view.spine node).IsChain fun outer inner => view.receiver? outer = some inner := by
  induction node using view.spine_induction with
  | last node h =>
      rw [spine_of_none h]
      exact .singleton node
  | link node inner h ih =>
      rw [spine_of_some h]
      refine ih.cons ?_
      intro below hbelow
      rw [head?_spine] at hbelow
      cases hbelow
      exact h

/-- The reason names what is wrong with the callee of a base that does not call the group
function. -/
theorem blocks_reason {node : N} (hnone : view.receiver? node = none)
    (hgroup : view.isGroupCall pattern node = false) :
    view.Blocks pattern (view.callee? node) (view.reason node) := by
  cases hcallee : view.callee? node with
  | none =>
      have hreason : view.reason node = .calleeIs "other" := by simp [reason, hcallee]
      rw [hreason]
      exact .absent
  | some callee =>
      cases hshape : view.shape callee with
      | identifier name =>
          have hreason : view.reason node = .rootIs name := by simp [reason, hcallee, hshape]
          rw [hreason]
          exact .name hshape (by simpa [isGroupCall, hcallee, hshape] using hgroup)
      | member object property =>
          have hreason : view.reason node = .objectNotCall := by simp [reason, hcallee, hshape]
          rw [hreason]
          refine .object hshape ?_
          rintro inner ⟨⟩
          simpa [receiver?, hcallee, hshape] using hnone
      | call | string | other =>
          have hreason : view.reason node = .calleeIs (view.shape callee).name := by
            simp [reason, hcallee, hshape]
          rw [hreason]
          exact .shape (by simp [hshape]) (by simp [hshape])

/-- A descent that is no chain reports its spine and the callee of its base. -/
theorem breaks_of_not_group {node : N} (h : view.isGroupCall pattern (view.base node) = false) :
    view.Breaks pattern node
      ⟨view.reason (view.base node), view.spine node, view.callee? (view.base node)⟩ where
  first := head?_spine node
  descent := isChain_spine node
  last := ⟨view.base node, getLast?_spine node, receiver?_base node, rfl⟩
  blocks := blocks_reason (receiver?_base node) h

/-- Whatever the node and the names looked for: the recogniser returns a chain exactly when the
grammar derives it, with the kind, the stories and the links of the derivation. When no chain is
derived it returns the calls on the way down and the callee at which the derivation breaks. -/
theorem recognize_iff_derives (view : View N) (pattern : Pattern) (node : N) :
    (∀ found, view.recognize pattern node = .matched found ↔ view.Derives pattern node found) ∧
      ((∃ found, view.Derives pattern node found) ∨
        ∃ broken, view.recognize pattern node = .mismatched broken ∧
          view.Breaks pattern node broken) := by
  cases h : view.isGroupCall pattern (view.base node) with
  | true =>
      have hderives := derives_chain h
      refine ⟨fun found => ⟨?_, ?_⟩, .inl ⟨_, hderives⟩⟩
      · intro hfound
        rw [recognize_of_group h] at hfound
        cases hfound
        exact hderives
      · intro hother
        rw [recognize_of_group h, hother.eq_chain.2]
  | false =>
      have hbroken := recognize_of_not_group h
      refine ⟨fun found => ⟨?_, ?_⟩, .inr ⟨_, hbroken, breaks_of_not_group h⟩⟩
      · intro hfound
        rw [hbroken] at hfound
        cases hfound
      · intro hother
        rw [hother.eq_chain.1] at h
        cases h

end View

end StoryCatalog

import StoryCatalog.Proofs.Chain.Spine

/-!
# What a descent ends with

A descent collects the spine of its call and then decides by the base alone (`descend_eq`). The call
is a chain exactly when the base calls the group function. `recognize_of_group` and
`recognize_of_not_group` give the two outcomes in full, and `pending_recognize` what remains to be
walked after either.
-/

namespace StoryCatalog

namespace View

open Chain

variable {N : Type} (view : View N) (pattern : Pattern)

/-- The node calls the group function. -/
def isGroupCall (node : N) : Bool :=
  match view.callee? node with
  | none => false
  | some callee =>
      match view.shape callee with
      | .identifier name => name = pattern.group
      | _ => false

/-- The callee of a call of the story method on another call. -/
def storyCallee? (node : N) : Option N :=
  match view.callee? node with
  | none => none
  | some callee =>
      match view.shape callee with
      | .member (some object) property =>
          if view.isCall object ∧ property = some pattern.method then some callee else none
      | _ => none

/-- The node calls the story method on another call. -/
def isStoryCall (node : N) : Bool :=
  (view.storyCallee? pattern node).isSome

/-- The story that a call declares, if it calls the story method on another call. -/
def story? (node : N) : Option NamedSpan :=
  (view.storyCallee? pattern node).map fun callee =>
    ⟨view.literalName (view.arguments node), view.span callee⟩

/-- The node that shows the kind of a group call: its first argument, or else its callee. -/
def shown (node : N) : N :=
  (view.arguments node).headD ((view.callee? node).getD node)

/-- The kind that a group call names. -/
def kind (node : N) : NamedSpan :=
  ⟨view.literalName (view.arguments node), view.span (view.shown node)⟩

/-- Why a call that does not call the group function is the base of no chain. -/
def reason (node : N) : Reason :=
  match view.callee? node with
  | none => .calleeIs "other"
  | some callee =>
      match view.shape callee with
      | .identifier name => .rootIs name
      | .member .. => .objectNotCall
      | shape => .calleeIs shape.name

/-- What a descent makes of its base, given the links, stories and consulted nodes collected on the
way, each the latest first. -/
def close (base : N) (links : List N) (stories : List NamedSpan) (consulted : List N) : Descent N :=
  if view.isGroupCall pattern base then
    ⟨.matched ⟨view.kind base, stories, links⟩, (view.shown base :: consulted).reverse⟩
  else ⟨.mismatched ⟨view.reason base, links.reverse, view.callee? base⟩, consulted.reverse⟩

/-- The chain that a call on top of a group call makes. -/
def chain (node : N) : Match N :=
  ⟨view.kind (view.base node), (view.spine node).reverse.filterMap (view.story? pattern),
    (view.spine node).reverse⟩

/-- The chain that a call makes, if it makes one. -/
def chain? (node : N) : Option (Match N) :=
  if view.isGroupCall pattern (view.base node) then some (view.chain pattern node) else none

/-- The callee that is walked after a descent: that of the base, unless the call is a chain. -/
def terminal? (node : N) : Option N :=
  if view.isGroupCall pattern (view.base node) then none else view.callee? (view.base node)

variable {view pattern}

/-- A story call invokes its method on its receiver. -/
theorem storyCallee?_eq_some_iff {node callee : N} :
    view.storyCallee? pattern node = some callee ↔
      view.callee? node = some callee ∧ ∃ object,
        view.shape callee = .member (some object) (some pattern.method) ∧
          view.isCall object = true := by
  unfold storyCallee?
  constructor
  · intro h
    split at h
    · exact absurd h (by simp)
    · rename_i found hfound
      split at h
      · rename_i object property hmember
        split at h
        · rename_i hboth
          cases h
          exact ⟨hfound, object, by rw [hmember, hboth.2], hboth.1⟩
        · exact absurd h (by simp)
      · exact absurd h (by simp)
  · rintro ⟨hcallee, object, hmember, hobject⟩
    simp [hcallee, hmember, hobject]

/-- A call without a receiver declares no story. -/
theorem storyCallee?_of_receiver?_none {node : N} (h : view.receiver? node = none) :
    view.storyCallee? pattern node = none := by
  rw [← Option.not_isSome_iff_eq_none, Option.isSome_iff_exists]
  rintro ⟨callee, hstory⟩
  obtain ⟨hcallee, object, hmember, hobject⟩ := storyCallee?_eq_some_iff.mp hstory
  rw [receiver?_eq_some_iff.mpr ⟨callee, _, hcallee, hmember, hobject⟩] at h
  exact absurd h (by simp)

/-- A group call has no receiver. -/
theorem receiver?_of_isGroupCall {node : N} (h : view.isGroupCall pattern node = true) :
    view.receiver? node = none := by
  unfold isGroupCall at h
  split at h
  · exact absurd h (by simp)
  · rename_i callee hcallee
    split at h
    · rename_i name hname
      simp [receiver?, hcallee, hname]
    · exact absurd h (by simp)

/-- Without a receiver the spine is the call alone, and it declares no story. -/
theorem close_of_receiver?_none {node : N} (h : view.receiver? node = none) (links : List N)
    (stories : List NamedSpan) (consulted : List N) :
    view.close pattern (view.base node) ((view.spine node).reverse ++ links)
        (((view.spine node).filterMap (view.story? pattern)).reverse ++ stories)
        (((view.spine node).filterMap (view.storyCallee? pattern)).reverse ++ consulted) =
      view.close pattern node (node :: links) stories consulted := by
  simp [spine_of_none h, base_of_none h, story?, storyCallee?_of_receiver?_none h]

/-- A descent collects the spine and then decides by the base. -/
theorem descend_eq (node : N) (links : List N) (stories : List NamedSpan) (consulted : List N) :
    view.descend pattern node links stories consulted =
      view.close pattern (view.base node) ((view.spine node).reverse ++ links)
        (((view.spine node).filterMap (view.story? pattern)).reverse ++ stories)
        (((view.spine node).filterMap (view.storyCallee? pattern)).reverse ++ consulted) := by
  -- The descent goes on only from a receiver; in every other case the node is the base of its own
  -- spine and decides.
  fun_induction View.descend view pattern node links stories consulted with
  | case1 node links stories consulted arguments hnode =>
      have hcallee : view.callee? node = none := callee?_of_shape hnode
      rw [close_of_receiver?_none (by simp [receiver?, hcallee])]
      simp [close, isGroupCall, reason, hcallee]
  | case2 node links stories consulted callee arguments hnode object hobject hcallee ih =>
      have hfound : view.callee? node = some callee := callee?_of_shape hnode
      have hreceiver : view.receiver? node = some object :=
        receiver?_eq_some_iff.mpr ⟨callee, _, hfound, hcallee, hobject⟩
      have hstory : view.storyCallee? pattern node = some callee :=
        storyCallee?_eq_some_iff.mpr ⟨hfound, object, hcallee, hobject⟩
      rw [ih, spine_of_some hreceiver, base_of_some hreceiver]
      simp [story?, hstory, view.arguments_of_shape hnode]
  | case3 node links stories consulted callee arguments hnode object property hcallee hobject hne
      ih =>
      have hfound : view.callee? node = some callee := callee?_of_shape hnode
      have hreceiver : view.receiver? node = some object :=
        receiver?_eq_some_iff.mpr ⟨callee, _, hfound, hcallee, hobject⟩
      have hstory : view.storyCallee? pattern node = none := by
        simp [storyCallee?, hfound, hcallee, hne]
      rw [ih, spine_of_some hreceiver, base_of_some hreceiver]
      simp [story?, hstory]
  | case4 node links stories consulted callee arguments hnode object property hcallee hobject =>
      have hfound : view.callee? node = some callee := callee?_of_shape hnode
      rw [close_of_receiver?_none (by simp [receiver?, hfound, hcallee, hobject])]
      simp [close, isGroupCall, reason, hfound, hcallee]
  | case5 node links stories consulted callee arguments hnode property hcallee =>
      have hfound : view.callee? node = some callee := callee?_of_shape hnode
      rw [close_of_receiver?_none (by simp [receiver?, hfound, hcallee])]
      simp [close, isGroupCall, reason, hfound, hcallee]
  | case6 node links stories consulted callee arguments hnode shown hcallee =>
      have hfound : view.callee? node = some callee := callee?_of_shape hnode
      rw [close_of_receiver?_none (by simp [receiver?, hfound, hcallee])]
      simp [close, isGroupCall, kind, View.shown, shown, hfound, hcallee,
        view.arguments_of_shape hnode]
  | case7 node links stories consulted callee arguments hnode name hcallee hname =>
      have hfound : view.callee? node = some callee := callee?_of_shape hnode
      rw [close_of_receiver?_none (by simp [receiver?, hfound, hcallee])]
      simp [close, isGroupCall, reason, hfound, hcallee, hname]
  | case8 node links stories consulted callee arguments hnode hmember hbare hidentifier =>
      have hfound : view.callee? node = some callee := callee?_of_shape hnode
      cases hshape : view.shape callee with
      | member object property =>
          cases object with
          | none => exact (hbare _ hshape).elim
          | some object => exact (hmember _ _ hshape).elim
      | identifier name => exact (hidentifier _ hshape).elim
      | call | string | other =>
          rw [close_of_receiver?_none (by simp [receiver?, hfound, hshape])]
          simp [close, isGroupCall, reason, hfound, hshape]
  | case9 node links stories consulted hnone hsome =>
      have hcallee : view.callee? node = none := by
        unfold callee?
        split
        · rename_i callee arguments h
          cases callee with
          | none => rfl
          | some callee => exact absurd h (hsome _ _)
        · rfl
      rw [close_of_receiver?_none (by simp [receiver?, hcallee])]
      simp [close, isGroupCall, reason, hcallee]

/-- A call is a chain when its base calls the group function. -/
theorem recognize_of_group {node : N} (h : view.isGroupCall pattern (view.base node) = true) :
    view.recognize pattern node = .matched (view.chain pattern node) := by
  rw [recognize, descend_eq, close, if_pos h]
  simp [chain, List.filterMap_reverse]

/-- A call is no chain when its base does not call the group function. -/
theorem recognize_of_not_group {node : N} (h : view.isGroupCall pattern (view.base node) = false) :
    view.recognize pattern node =
      .mismatched
        ⟨view.reason (view.base node), view.spine node, view.callee? (view.base node)⟩ := by
  rw [recognize, descend_eq, close, if_neg (by simp [h])]
  simp

theorem chain?_of_matched {node : N} {found : Match N}
    (h : view.recognize pattern node = .matched found) : view.chain? pattern node = some found := by
  cases hbase : view.isGroupCall pattern (view.base node) with
  | true =>
      rw [recognize_of_group hbase] at h
      cases h
      simp [chain?, hbase]
  | false =>
      rw [recognize_of_not_group hbase] at h
      cases h

theorem chain?_of_mismatched {node : N} {found : Mismatch N}
    (h : view.recognize pattern node = .mismatched found) : view.chain? pattern node = none := by
  cases hbase : view.isGroupCall pattern (view.base node) with
  | true =>
      rw [recognize_of_group hbase] at h
      cases h
  | false => simp [chain?, hbase]

/-- The nodes that a descent asks for their span: the callees of the stories from the top down, and
after a match the node that shows the kind. -/
theorem consulted_descend (node : N) :
    (view.descend pattern node [] [] []).consulted =
      (view.spine node).filterMap (view.storyCallee? pattern) ++
        if view.isGroupCall pattern (view.base node) then [view.shown (view.base node)]
        else [] := by
  rw [descend_eq, close]
  split <;> simp

/-- After either outcome the terminal remains to be walked, and the arguments of the spine from the
base up. -/
theorem pending_recognize (node : N) :
    view.pending (view.recognize pattern node) =
      (view.terminal? pattern node).toList ++ view.spineArguments (view.spine node).reverse := by
  cases h : view.isGroupCall pattern (view.base node) with
  | true => simp [recognize_of_group h, pending, chain, terminal?, h]
  | false => simp [recognize_of_not_group h, pending, terminal?, h]

end View

end StoryCatalog

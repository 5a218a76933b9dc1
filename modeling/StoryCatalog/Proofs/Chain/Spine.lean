import StoryCatalog.Chain.Walk

/-!
# The spine of a call

A call whose callee is a member access on another call stands on top of that call. The spine of a
call is the list of calls met by going down in this way, and its base is the last of them. All
calls of a spine have the same base (`base_of_mem_spine`), and `spine_induction` goes from a base up
to the call on top.
-/

namespace StoryCatalog

namespace View

open Chain

variable {N : Type} (view : View N)

/-- The callee of a call, if there is one. Other nodes have none. -/
def callee? (node : N) : Option N :=
  match view.shape node with
  | .call callee _ => callee
  | _ => none

/-- The call on whose result a call invokes a method. -/
def receiver? (node : N) : Option N :=
  match view.callee? node with
  | none => none
  | some callee =>
      match view.shape callee with
      | .member (some object) _ => if view.isCall object then some object else none
      | _ => none

variable {view}

theorem callee?_of_shape {node : N} {callee : Option N} {arguments : List N}
    (h : view.shape node = .call callee arguments) : view.callee? node = callee := by
  simp [callee?, h]

/-- Only a call has a callee. -/
theorem shape_of_callee? {node callee : N} (h : view.callee? node = some callee) :
    view.shape node = .call (some callee) (view.arguments node) := by
  unfold callee? at h
  split at h
  · rename_i found arguments hshape
    rw [hshape, h, view.arguments_of_shape hshape]
  · exact absurd h (by simp)

theorem isCall_iff {node : N} :
    view.isCall node = true ↔
      view.shape node = .call (view.callee? node) (view.arguments node) := by
  unfold isCall callee? View.arguments
  split <;> simp_all

theorem isCall_of_shape {node : N} {callee : Option N} {arguments : List N}
    (h : view.shape node = .call callee arguments) : view.isCall node = true := by
  simp [isCall, h]

/-- A member access is no call. -/
theorem not_isCall_of_member {node : N} {object : Option N} {property : Option Text}
    (h : view.shape node = .member object property) : view.isCall node = false := by
  simp [isCall, h]

/-- The receiver of a call is itself a call, and is reached through a member access. -/
theorem receiver?_eq_some_iff {node inner : N} :
    view.receiver? node = some inner ↔
      ∃ callee property, view.callee? node = some callee ∧
        view.shape callee = .member (some inner) property ∧ view.isCall inner = true := by
  unfold receiver?
  constructor
  · intro h
    split at h
    · exact absurd h (by simp)
    · rename_i callee hcallee
      split at h
      · rename_i object property hmember
        split at h
        · rename_i hobject
          cases h
          exact ⟨callee, property, hcallee, hmember, hobject⟩
        · exact absurd h (by simp)
      · exact absurd h (by simp)
  · rintro ⟨callee, property, hcallee, hmember, hinner⟩
    simp [hcallee, hmember, hinner]

/-- The receiver of a call is smaller than the call, so descending a chain ends. -/
theorem size_receiver_lt {node inner : N} (h : view.receiver? node = some inner) :
    view.size inner < view.size node := by
  obtain ⟨callee, property, hcallee, hmember, _⟩ := receiver?_eq_some_iff.mp h
  have hcall := view.call_lt (shape_of_callee? hcallee)
  have hobject := view.member_lt hmember
  omega

variable (view)

/-- The calls met on the way down from a call, the call itself first. -/
def spine (node : N) : List N :=
  match _h : view.receiver? node with
  | none => [node]
  | some inner => node :: spine inner
termination_by view.size node
decreasing_by exact size_receiver_lt _h

/-- The call at which the way down ends. -/
def base (node : N) : N :=
  match _h : view.receiver? node with
  | none => node
  | some inner => base inner
termination_by view.size node
decreasing_by exact size_receiver_lt _h

variable {view}

theorem spine_of_none {node : N} (h : view.receiver? node = none) : view.spine node = [node] := by
  rw [spine]
  split
  · rfl
  · simp_all

/-- The spine of a call with a receiver is the call and then the spine of the receiver. -/
theorem spine_of_some {node inner : N} (h : view.receiver? node = some inner) :
    view.spine node = node :: view.spine inner := by
  rw [spine]
  split <;> simp_all

theorem base_of_none {node : N} (h : view.receiver? node = none) : view.base node = node := by
  rw [base]
  split
  · rfl
  · simp_all

/-- A call with a receiver has the base of this receiver. -/
theorem base_of_some {node inner : N} (h : view.receiver? node = some inner) :
    view.base node = view.base inner := by
  rw [base]
  split <;> simp_all

/-- Induction along the spine: from the receiver of a call to the call. -/
theorem spine_induction (view : View N) {motive : N → Prop}
    (last : ∀ node, view.receiver? node = none → motive node)
    (link : ∀ node inner, view.receiver? node = some inner → motive inner → motive node)
    (node : N) : motive node := by
  fun_induction View.base view node with
  | case1 node h => exact last node h
  | case2 node inner h ih => exact link node inner h ih

/-- The spine ends in the base. -/
theorem exists_spine_eq (view : View N) (node : N) :
    ∃ above, view.spine node = above ++ [view.base node] := by
  induction node using view.spine_induction with
  | last node h => exact ⟨[], by rw [spine_of_none h, base_of_none h, List.nil_append]⟩
  | link node inner h ih =>
      obtain ⟨above, hspine⟩ := ih
      exact ⟨node :: above, by rw [spine_of_some h, base_of_some h, hspine, List.cons_append]⟩

/-- The base is the first of the links once they stand in the order of the source. -/
theorem head?_reverse_spine (node : N) :
    (view.spine node).reverse.head? = some (view.base node) := by
  obtain ⟨above, h⟩ := view.exists_spine_eq node
  rw [h, List.reverse_append, List.reverse_singleton, List.singleton_append, List.head?_cons]

/-- All calls of a spine share their base. -/
theorem base_of_mem_spine {node link : N} (h : link ∈ view.spine node) :
    view.base link = view.base node := by
  induction node using view.spine_induction with
  | last node hnone =>
      rw [spine_of_none hnone, List.mem_singleton] at h
      rw [h]
  | link node inner hsome ih =>
      rw [spine_of_some hsome, List.mem_cons] at h
      rcases h with rfl | h
      · rfl
      · rw [ih h, base_of_some hsome]

end View

end StoryCatalog

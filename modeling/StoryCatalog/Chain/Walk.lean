import StoryCatalog.Chain.Basic

/-!
# Walking a tree for its chains

The walk offers calls to the recogniser in the order in which a reader meets them. The calls that a
descent passed are never offered again: they lead to the same end. Only their arguments are walked,
and after a mismatch the callee at which the descent ended.
-/

namespace StoryCatalog

namespace View

open Chain

variable {N : Type} (view : View N)

/-- The arguments of a list of calls, call by call. -/
def spineArguments (links : List N) : List N :=
  links.flatMap view.arguments

/-- What remains to be walked after an outcome. -/
def pending : Outcome N → List N
  | .matched found => view.spineArguments found.links
  | .mismatched found => found.terminal.toList ++ view.spineArguments found.links.reverse

@[simp] theorem spineArguments_nil : view.spineArguments [] = [] := rfl

@[simp] theorem spineArguments_cons (node : N) (links : List N) :
    view.spineArguments (node :: links) = view.arguments node ++ view.spineArguments links := by
  simp [spineArguments]

theorem arguments_of_shape {node : N} {callee : Option N} {arguments : List N}
    (h : view.shape node = .call callee arguments) : view.arguments node = arguments := by
  simp [View.arguments, h]

theorem arguments_of_not_call {node : N} (h : view.isCall node = false) :
    view.arguments node = [] := by
  unfold isCall at h
  unfold View.arguments
  split <;> simp_all

/-- No descent leaves more to be walked than the call it started from and the arguments above. -/
theorem total_pending_descend (pattern : Pattern) (node : N) (links : List N)
    (stories : List NamedSpan) (consulted : List N) :
    view.total (view.pending (view.descend pattern node links stories consulted).outcome)
      < view.size node + view.total (view.spineArguments links) := by
  fun_induction View.descend view pattern node links stories consulted with
  | case1 node links stories consulted arguments hnode =>
      have := view.arguments_lt hnode
      simp [pending, view.arguments_of_shape hnode]
      omega
  | case2 node links stories consulted callee arguments hnode object hobject hcallee ih =>
      have hcall := view.call_lt hnode
      have hmember := view.member_lt hcallee
      simp only [spineArguments_cons, view.arguments_of_shape hnode, total_append] at ih
      omega
  | case3 node links stories consulted callee arguments hnode object property hcallee hobject hne
      ih =>
      have hcall := view.call_lt hnode
      have hmember := view.member_lt hcallee
      simp only [spineArguments_cons, view.arguments_of_shape hnode, total_append] at ih
      omega
  | case4 node links stories consulted callee arguments hnode =>
      have hcall := view.call_lt hnode
      simp [pending, view.arguments_of_shape hnode]
      omega
  | case5 node links stories consulted callee arguments hnode =>
      have hcall := view.call_lt hnode
      simp [pending, view.arguments_of_shape hnode]
      omega
  | case6 node links stories consulted callee arguments hnode =>
      have hcall := view.call_lt hnode
      simp [pending, view.arguments_of_shape hnode]
      omega
  | case7 node links stories consulted callee arguments hnode =>
      have hcall := view.call_lt hnode
      simp [pending, view.arguments_of_shape hnode]
      omega
  | case8 node links stories consulted callee arguments hnode =>
      have hcall := view.call_lt hnode
      simp [pending, view.arguments_of_shape hnode]
      omega
  | case9 node links stories consulted hnone hsome =>
      have harguments : view.arguments node = [] := by
        unfold View.arguments
        split
        · rename_i callee arguments h
          cases callee with
          | none => exact absurd h (hnone _)
          | some callee => exact absurd h (hsome _ _)
        · rfl
      have := view.parts_lt node
      simp [pending, harguments]
      omega

/-- What a walk does: the calls that it offered to the recogniser, in the order of offering, the
chains that it found, in the order of their group calls, and the nodes whose span was asked for, in
the order of asking. -/
structure Walk (N : Type) where
  offered : List N
  found : List (Match N)
  consulted : List N

/-- Walk the nodes of a stack, the next one first. -/
def walkStack (pattern : Pattern) : List N → Walk N
  | [] => ⟨[], [], []⟩
  | node :: rest =>
      if view.isCall node then
        let descent := view.descend pattern node [] [] []
        let after := walkStack pattern (view.pending descent.outcome ++ rest)
        match descent.outcome with
        | .matched found =>
            ⟨node :: after.offered, found :: after.found, descent.consulted ++ after.consulted⟩
        | .mismatched _ =>
            ⟨node :: after.offered, after.found, descent.consulted ++ after.consulted⟩
      else walkStack pattern (view.children node ++ rest)
termination_by stack => view.total stack
decreasing_by
  · have h := view.total_pending_descend pattern node [] [] []
    simp only [spineArguments_nil, total_nil] at h
    simp only [total_append, total_cons]
    omega
  · have h : view.total (view.children node) < view.size node := view.children_lt node
    simp only [total_append, total_cons]
    omega

/-- Find every chain of a tree. -/
def walk (pattern : Pattern) (root : N) : Walk N :=
  view.walkStack pattern [root]

end View

end StoryCatalog

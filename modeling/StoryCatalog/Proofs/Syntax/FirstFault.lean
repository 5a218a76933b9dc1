import Mathlib.Data.List.Lex
import StoryCatalog.Proofs.Location.Position
import StoryCatalog.Proofs.Syntax.Literal

/-!
# A concrete tree is refused at its first fault

A node of a tree is known by the way down to it, the list of the numbers of the children that are
passed. In lexicographic order of the ways a node comes before everything below it, and each child,
with everything below it, before the next one: this is the order in which the text is read
(`Cst.IsFirst`). Both searches of a tree, that for faults and that for legacy octal escapes, find
the first node in this order (`Cst.Searches.eq_some_iff`), the former although it passes over
subtrees that are not flagged. `Cst.check_eq_error_iff` says of every tree whether it is refused,
with which message, and at which character.
-/

namespace StoryCatalog

/-- A backslash and two or three octal digits, or one that is not zero. -/
inductive Escape.LegacyOctal : Text → Prop where
  | one {d : CodePoint} : 0x31 ≤ d.val → d.val ≤ 0x37 → LegacyOctal [0x5C, d]
  | many {digits : Text} : digits.length = 2 ∨ digits.length = 3 →
      (∀ d ∈ digits, 0x30 ≤ d.val ∧ d.val ≤ 0x37) → LegacyOctal (0x5C :: digits)

/-- The test finds the escapes that are spelled as legacy octal ones. -/
theorem Escape.isLegacyOctal_iff {t : Text} : isLegacyOctal t = true ↔ LegacyOctal t := by
  constructor
  · intro h
    unfold isLegacyOctal at h
    split at h
    · rename_i a
      simp only [isOctalDigit, Bool.and_eq_true, decide_eq_true_eq, bne_iff_ne, ne_eq,
        Fin.ext_iff] at h
      exact .one (by omega) (by omega)
    · refine .many (.inl rfl) ?_
      simpa [isOctalDigit] using h
    · refine .many (.inr rfl) ?_
      simpa [isOctalDigit, and_assoc] using h
    · cases h
  · intro h
    cases h with
    | one hlow hhigh =>
        simp only [isLegacyOctal, isOctalDigit, Bool.and_eq_true, decide_eq_true_eq, bne_iff_ne,
          ne_eq, Fin.ext_iff]
        omega
    | many hlength hdigits =>
        rename_i digits
        match digits, hlength with
        | [a, b], _ => simpa [isLegacyOctal, isOctalDigit] using hdigits
        | [a, b, c], _ => simpa [isLegacyOctal, isOctalDigit, and_assoc] using hdigits

namespace Cst

/-! ## Ways down a tree -/

/-- A way leads from a node to another one: at each step it gives the number of the node to go to
among those right below. -/
inductive Reaches (below : Cst → List Cst) : Cst → List Nat → Cst → Prop where
  | here (node : Cst) : Reaches below node [] node
  | down {node child found : Cst} {i : Nat} {way : List Nat} : (below node)[i]? = some child →
      Reaches below child way found → Reaches below node (i :: way) found

/-- The first node that can be reached and passes a test: no way to such a node comes before. -/
def IsFirst (below : Cst → List Cst) (test : Cst → Prop) (root found : Cst) : Prop :=
  ∃ way, Reaches below root way found ∧ test found ∧
    ∀ other node, Reaches below root other node → test node → ¬ List.Lex (· < ·) other way

variable {below : Cst → List Cst} {test : Cst → Prop} {search : Cst → Option Cst}

/-- A way leads to one node. -/
theorem Reaches.unique {root found other : Cst} {way : List Nat} (h : Reaches below root way found)
    (hother : Reaches below root way other) : found = other := by
  induction h with
  | here => cases hother; rfl
  | down hchild _ ih =>
      cases hother with
      | down hchild' hother =>
          rw [hchild] at hchild'
          cases hchild'
          exact ih hother

/-- At most one node is the first. -/
theorem IsFirst.unique {root found other : Cst} (h : IsFirst below test root found)
    (hother : IsFirst below test root other) : found = other := by
  obtain ⟨way, hway, htest, hleast⟩ := h
  obtain ⟨way', hway', htest', hleast'⟩ := hother
  have heq : way = way' := Std.Trichotomous.trichotomous way way'
    (hleast' way found hway htest) (hleast way' other hway' htest')
  subst heq
  exact hway.unique hway'

/-- What holds of some first node holds of the first one. -/
theorem IsFirst.exists_and_iff {root found : Cst} (h : IsFirst below test root found)
    {P : Cst → Prop} : (∃ node, IsFirst below test root node ∧ P node) ↔ P found := by
  constructor
  · rintro ⟨node, hnode, hP⟩
    rw [h.unique hnode]
    exact hP
  · exact fun hP => ⟨found, h, hP⟩

/-- What is first is reached and passes the test. -/
theorem IsFirst.exists_reaches {root found : Cst} (h : IsFirst below test root found) :
    ∃ way, Reaches below root way found ∧ test found := by
  obtain ⟨way, hway, htest, _⟩ := h
  exact ⟨way, hway, htest⟩

/-- Nothing is first where nothing passes the test. -/
theorem not_isFirst {root found : Cst}
    (h : ∀ way node, Reaches below root way node → ¬ test node) :
    ¬ IsFirst below test root found := by
  intro hfirst
  obtain ⟨way, hway, htest⟩ := hfirst.exists_reaches
  exact h way found hway htest

/-- What a child reaches is reached from the node. -/
theorem Reaches.of_mem {node child found : Cst} {way : List Nat} (hchild : child ∈ below node)
    (h : Reaches below child way found) : ∃ other, Reaches below node other found := by
  obtain ⟨i, hi⟩ := List.mem_iff_getElem?.mp hchild
  exact ⟨i :: way, .down hi h⟩

/-- What can be reached by going to fewer nodes can be reached. -/
theorem Reaches.mono {more : Cst → List Cst}
    (hsub : ∀ node, ∀ child ∈ below node, child ∈ more node)
    {root found : Cst} {way : List Nat} (h : Reaches below root way found) :
    ∃ other, Reaches more root other found := by
  induction h with
  | here node => exact ⟨[], .here node⟩
  | down hchild _ ih =>
      obtain ⟨other, hother⟩ := ih
      exact Reaches.of_mem (hsub _ _ (List.mem_of_getElem? hchild)) hother

/-- In a tree a search answers with a node that passes the test, and else with what it finds first
below the node. -/
def Searches (below : Cst → List Cst) (test : Cst → Prop) (search : Cst → Option Cst)
    (root : Cst) : Prop :=
  ∀ way node, Reaches below root way node →
    (test node → search node = some node) ∧
      (¬ test node → search node = (below node).findSome? search)

namespace Searches

/-- A search of the whole tree searches what is below a child. -/
theorem child {node child : Cst} (h : Searches below test search node) {i : Nat}
    (hchild : (below node)[i]? = some child) : Searches below test search child :=
  fun way found hfound => h (i :: way) found (.down hchild hfound)

/-- A search that finds nothing has met no node that passes the test. -/
theorem not_test_of_eq_none {root : Cst} (h : Searches below test search root)
    (hnone : search root = none) {way : List Nat} {node : Cst}
    (hnode : Reaches below root way node) : ¬ test node := by
  induction hnode with
  | here node =>
      intro htest
      rw [(h [] node (.here node)).1 htest] at hnone
      cases hnone
  | @down node child found i way hchild _ ih =>
      have hroot := h [] node (.here node)
      have htest : ¬ test node := by
        intro htest
        rw [hroot.1 htest] at hnone
        cases hnone
      rw [hroot.2 htest, List.findSome?_eq_none_iff] at hnone
      exact ih (h.child hchild) (hnone child (List.mem_of_getElem? hchild))

/-- What a search finds is the first node that passes the test. -/
theorem isFirst (hsize : ∀ node, ∀ child ∈ below node, child.size < node.size) {root found : Cst}
    (h : Searches below test search root) (hfound : search root = some found) :
    IsFirst below test root found := by
  induction hn : root.size using Nat.strongRecOn generalizing root with
  | ind n ih =>
      subst hn
      have hroot := h [] root (.here root)
      by_cases htest : test root
      · rw [hroot.1 htest] at hfound
        cases hfound
        refine ⟨[], .here _, htest, ?_⟩
        intro other node _ _ hbefore
        cases hbefore
      · rw [hroot.2 htest, List.findSome?_eq_some_iff] at hfound
        obtain ⟨before, child, after, hsplit, hchild, hbefore⟩ := hfound
        have hat : (below root)[before.length]? = some child := by simp [hsplit]
        have hmem : child ∈ below root := List.mem_of_getElem? hat
        obtain ⟨way, hway, hpasses, hleast⟩ := ih _ (hsize root child hmem) (h.child hat) hchild rfl
        refine ⟨before.length :: way, .down hat hway, hpasses, ?_⟩
        intro other node hother hnode
        cases hother with
        | here => exact absurd hnode htest
        | @down _ sibling _ i rest hsibling hrest =>
            intro hlex
            rw [List.cons_lex_cons_iff] at hlex
            rcases hlex with hlt | ⟨rfl, hlex⟩
            -- the search has passed the earlier children and found nothing there
            · have hearly : sibling ∈ before := by
                rw [hsplit, List.getElem?_append_left hlt] at hsibling
                exact List.mem_of_getElem? hsibling
              exact (h.child hsibling).not_test_of_eq_none (hbefore _ hearly) hrest hnode
            · rw [hat] at hsibling
              cases hsibling
              exact hleast rest node hrest hnode hlex

/-- A search finds the first node that passes the test, and no other. -/
theorem eq_some_iff (hsize : ∀ node, ∀ child ∈ below node, child.size < node.size)
    {root found : Cst} (h : Searches below test search root) :
    search root = some found ↔ IsFirst below test root found := by
  refine ⟨h.isFirst hsize, fun hfirst => ?_⟩
  cases hsearch : search root with
  | none =>
      obtain ⟨way, hway, htest, _⟩ := hfirst
      exact absurd htest (h.not_test_of_eq_none hsearch hway)
  | some other => rw [(h.isFirst hsize hsearch).unique hfirst]

/-- A search finds nothing exactly when no node that can be reached passes the test. -/
theorem eq_none_iff (hsize : ∀ node, ∀ child ∈ below node, child.size < node.size)
    {root : Cst} (h : Searches below test search root) :
    search root = none ↔ ∀ way node, Reaches below root way node → ¬ test node := by
  refine ⟨fun hnone way node hnode => h.not_test_of_eq_none hnone hnode, fun hno => ?_⟩
  cases hsearch : search root with
  | none => rfl
  | some found =>
      obtain ⟨way, hway, htest, _⟩ := h.isFirst hsize hsearch
      exact absurd htest (hno way found hway)

end Searches

/-! ## The two searches -/

/-- The node marks a fault of the source: text that no rule covers, or a node that is not there. -/
def Faulty (node : Cst) : Prop :=
  node.isError = true ∨ node.missing = true

instance : DecidablePred Faulty :=
  fun node => inferInstanceAs (Decidable (node.isError = true ∨ node.missing = true))

/-- Every node has the error flag exactly when it or a node below it is faulty. -/
def Flagged (root : Cst) : Prop :=
  ∀ way node, Reaches children root way node →
    (node.hasError = true ↔ ∃ other bad, Reaches children node other bad ∧ bad.Faulty)

/-- All nodes of a tree, each with the nodes below it behind it. -/
def nodes : Cst → List Cst
  | node@⟨_, _, _, _, _, _, _, children⟩ => node :: nodesOf children
where
  /-- All nodes of a list of trees. -/
  nodesOf : List Cst → List Cst
    | [] => []
    | node :: rest => nodes node ++ nodesOf rest

/-- The nodes to look at below a node for escapes: its named children, and none below an escape. -/
def exposed (node : Cst) : List Cst :=
  if node.type = "escape_sequence" then [] else node.namedChildren

theorem size_lt_of_mem_children (node : Cst) : ∀ child ∈ node.children, child.size < node.size := by
  intro child hchild
  have hle := le_sizeSum_of_mem size hchild
  rw [size_eq node]
  omega

/-- What is exposed is among the children. -/
theorem exposed_subset (node : Cst) : ∀ child ∈ node.exposed, child ∈ node.children := by
  intro child hchild
  unfold exposed at hchild
  split at hchild
  · cases hchild
  · exact (List.mem_filter.mp hchild).1

theorem size_lt_of_mem_exposed (node : Cst) : ∀ child ∈ node.exposed, child.size < node.size :=
  fun child hchild => node.size_lt_of_mem_children child (node.exposed_subset child hchild)

/-- The nodes of a tree are its root and the nodes below. -/
theorem nodes_eq (node : Cst) : node.nodes = node :: node.children.flatMap nodes := by
  have hlist : ∀ trees, nodes.nodesOf trees = trees.flatMap nodes := by
    intro trees
    induction trees with
    | nil => rfl
    | cons tree rest ih => rw [nodes.nodesOf, List.flatMap_cons, ih]
  cases node
  rw [nodes, hlist]

/-- A list of nodes is searched for the first fault one by one. -/
theorem firstFaultOf_eq (nodes : List Cst) :
    firstFault.firstFaultOf nodes = nodes.findSome? firstFault := by
  induction nodes with
  | nil => rfl
  | cons node rest ih =>
      rw [firstFault.firstFaultOf, List.findSome?_cons, ih]
      cases firstFault node <;> rfl

/-- Of a list of nodes the named ones are searched one by one. -/
theorem firstLegacyOctalOf_eq (source : Bytes) (nodes : List Cst) :
    firstLegacyOctal.firstLegacyOctalOf source nodes =
      (nodes.filter Cst.named).findSome? (firstLegacyOctal source) := by
  induction nodes with
  | nil => rfl
  | cons node rest ih =>
      rw [firstLegacyOctal.firstLegacyOctalOf, ih]
      cases hnamed : node.named with
      | false => rw [List.filter_cons_of_neg (by simp [hnamed])]; rfl
      | true =>
          rw [List.filter_cons_of_pos hnamed, List.findSome?_cons]
          cases firstLegacyOctal source node <;> simp

/-- A node that is a fault is its own first fault. -/
theorem firstFault_of_faulty {node : Cst} (h : node.Faulty) : node.firstFault = some node := by
  cases node
  simp_all [firstFault, Faulty, isError]

/-- Below another node faults are looked for only where it is marked. -/
theorem firstFault_of_not_faulty {node : Cst} (h : ¬ node.Faulty) :
    node.firstFault = if node.hasError then node.children.findSome? firstFault else none := by
  cases node
  simp_all [firstFault, firstFaultOf_eq, Faulty, isError]

/-- The first of all nodes that is faulty is found by looking at every node. -/
theorem searches_nodes (root : Cst) :
    Searches children Faulty (fun node => node.nodes.find? fun node => decide node.Faulty)
      root := by
  intro way node _
  dsimp only
  rw [nodes_eq, List.find?_cons]
  constructor
  · intro h
    rw [decide_eq_true h]
  · intro h
    rw [decide_eq_false h, List.find?_flatMap]

/-- The marks of a child tell of faults when those of the tree do. -/
theorem Flagged.child {node child : Cst} (h : node.Flagged) (hchild : child ∈ node.children) :
    child.Flagged := by
  obtain ⟨i, hi⟩ := List.mem_iff_getElem?.mp hchild
  exact fun way found hfound => h (i :: way) found (.down hi hfound)

/-- The mark of the root tells whether there is a fault. -/
theorem Flagged.hasError_iff {root : Cst} (h : root.Flagged) :
    root.hasError = true ↔ ∃ way bad, Reaches children root way bad ∧ bad.Faulty :=
  h [] root (.here root)

/-- Below a node without the flag no node has it, and none is faulty. -/
theorem Flagged.child_of_not_hasError {node child : Cst} (h : node.Flagged)
    (hflag : ¬ node.hasError = true) (hchild : child ∈ node.children) :
    ¬ child.Faulty ∧ ¬ child.hasError = true := by
  rw [h.hasError_iff] at hflag
  constructor
  · intro hfaulty
    obtain ⟨way, hway⟩ := Reaches.of_mem hchild (.here child)
    exact hflag ⟨way, child, hway, hfaulty⟩
  · intro hchild_flag
    obtain ⟨_, bad, hbad, hfaulty⟩ := (h.child hchild).hasError_iff.mp hchild_flag
    obtain ⟨way, hway⟩ := Reaches.of_mem hchild hbad
    exact hflag ⟨way, bad, hway, hfaulty⟩

/-- Where the flags are right, the subtrees that are passed over hold no fault. -/
theorem searches_firstFault {root : Cst} (hflags : root.Flagged) :
    Searches children Faulty firstFault root := by
  intro way node hnode
  have hnode_flags : node.Flagged := by
    induction hnode with
    | here => exact hflags
    | down hchild _ ih => exact ih (hflags.child (List.mem_of_getElem? hchild))
  refine ⟨firstFault_of_faulty, fun hnot => ?_⟩
  rw [firstFault_of_not_faulty hnot]
  split
  · rfl
  · rename_i hflag
    symm
    rw [List.findSome?_eq_none_iff]
    intro child hchild
    obtain ⟨hchild_not, hchild_flag⟩ := hnode_flags.child_of_not_hasError hflag hchild
    rw [firstFault_of_not_faulty hchild_not, if_neg hchild_flag]

/-- The search that passes over subtrees finds the first faulty node of all. -/
theorem firstFault_eq_find? {root : Cst} (hflags : root.Flagged) :
    root.firstFault = root.nodes.find? fun node => decide node.Faulty := by
  refine Option.ext fun found => ?_
  rw [(searches_firstFault hflags).eq_some_iff size_lt_of_mem_children,
    (searches_nodes root).eq_some_iff size_lt_of_mem_children]

/-! ## Where a node stands in the source -/

/-- A node stands between two offsets of a text, counted in characters. -/
structure StandsBetween (source : Text) (node : Cst) (first last : Nat) : Prop where
  first_le : first ≤ last
  last_le : last ≤ source.length
  start_eq : node.start = (Text.utf8 (source.take first)).length
  stop_eq : node.stop = (Text.utf8 (source.take last)).length

/-- Every node of a tree begins and ends between two characters of a text. -/
def OnBoundaries (source : Text) (root : Cst) : Prop :=
  ∀ way node, Reaches children root way node → ∃ first last, node.StandsBetween source first last

instance (source : Text) (node : Cst) (first last : Nat) :
    Decidable (node.StandsBetween source first last) :=
  decidable_of_iff (first ≤ last ∧ last ≤ source.length ∧
      node.start = (Text.utf8 (source.take first)).length ∧
      node.stop = (Text.utf8 (source.take last)).length)
    ⟨fun h => ⟨h.1, h.2.1, h.2.2.1, h.2.2.2⟩, fun h => ⟨h.1, h.2, h.3, h.4⟩⟩

/-- A node is an escape that strict code does not allow. -/
structure LegacyEscape (source : Text) (node : Cst) : Prop where
  type_eq : node.type = "escape_sequence"
  spells : ∃ first last, node.StandsBetween source first last ∧
    Escape.LegacyOctal ((source.take last).drop first)

variable {source : Text} {node : Cst} {first last : Nat}

/-- A node that stands between two characters starts at the position of the first. -/
theorem StandsBetween.startPosition (h : node.StandsBetween source first last)
    (hscalar : source.isScalar = true) :
    node.startPosition source.utf8 = source.positionAt first := by
  show bytePosition source.utf8 node.start = _
  rw [h.start_eq, bytePosition_utf8 hscalar]

/-- Its text is that of the source between them. -/
theorem StandsBetween.text (h : node.StandsBetween source first last)
    (hscalar : source.isScalar = true) :
    node.text source.utf8 = (source.take last).drop first := by
  have hbefore : (source.take last).take first = source.take first := by
    rw [List.take_take, Nat.min_eq_left h.first_le]
  have hbytes : Text.utf8 (source.take last) =
      Text.utf8 (source.take first) ++ Text.utf8 ((source.take last).drop first) := by
    rw [← Text.utf8_append, ← hbefore, List.take_append_drop]
  refine StandsOn.text ⟨?_, ?_⟩
  · refine Text.isScalar_of_mem hscalar fun c hc => ?_
    exact List.mem_of_mem_take (List.mem_of_mem_drop hc)
  · rw [h.start_eq, h.stop_eq, slice, placeOf_natCast, placeOf_natCast, ← List.drop_take,
      Text.take_utf8, hbytes, List.drop_left]

/-- An escape is looked at itself, and any other node through its named children. -/
theorem firstLegacyOctal_eq (source : Bytes) (node : Cst) :
    node.firstLegacyOctal source =
      if node.type = "escape_sequence" then
        if Escape.isLegacyOctal (node.text source) then some node else none
      else node.namedChildren.findSome? (firstLegacyOctal source) := by
  cases node
  simp only [firstLegacyOctal, firstLegacyOctalOf_eq, namedChildren, beq_iff_eq]

/-- The search for escapes reads the text of each of them. -/
theorem searches_firstLegacyOctal {root : Cst} (hscalar : source.isScalar = true)
    (hranges : root.OnBoundaries source) :
    Searches exposed (LegacyEscape source) (firstLegacyOctal source.utf8) root := by
  intro way node hnode
  obtain ⟨_, hreached⟩ := hnode.mono exposed_subset
  obtain ⟨first, last, hstands⟩ := hranges _ node hreached
  have hiff : LegacyEscape source node ↔ node.type = "escape_sequence" ∧
      Escape.isLegacyOctal (node.text source.utf8) = true := by
    rw [Escape.isLegacyOctal_iff]
    constructor
    · rintro ⟨htype, first', last', hstands', hlegacy⟩
      rw [hstands'.text hscalar]
      exact ⟨htype, hlegacy⟩
    · rintro ⟨htype, hlegacy⟩
      rw [hstands.text hscalar] at hlegacy
      exact ⟨htype, first, last, hstands, hlegacy⟩
  rw [hiff, firstLegacyOctal_eq, exposed]
  by_cases htype : node.type = "escape_sequence"
  · simp [htype]
  · simp [htype]

/-! ## The answer to a tree -/

/-- An error has this message and the position of the first character of the node. -/
def ReportedAt (source : Text) (node : Cst) (message : Text) (e : ParseError) : Prop :=
  ∃ first last, node.StandsBetween source first last ∧ e = .at (source.positionAt first) message

/-- A report about the node is the one at its position. -/
theorem StandsBetween.reportedAt_iff (h : node.StandsBetween source first last)
    (hscalar : source.isScalar = true) {message : Text} {e : ParseError} :
    node.ReportedAt source message e ↔ .at (node.startPosition source.utf8) message = e := by
  constructor
  · rintro ⟨first', last', hstands, rfl⟩
    rw [hstands.startPosition hscalar]
  · rintro rfl
    exact ⟨first, last, h, by rw [h.startPosition hscalar]⟩

variable {root : Cst}

/-- A tree with a faulty node is refused at the first one. -/
theorem check_of_fault (hflags : root.Flagged) {bad : Cst} (h : IsFirst children Faulty root bad)
    (bytes : Bytes) :
    root.check bytes = .error (.at (bad.startPosition bytes)
      (if bad.missing then "missing " ++ (bad.type : Text) else "unexpected syntax")) := by
  have hflag : root.hasError = true := by
    obtain ⟨way, hway, hfaulty, _⟩ := h
    exact hflags.hasError_iff.mpr ⟨way, bad, hway, hfaulty⟩
  have hfound := ((searches_firstFault hflags).eq_some_iff size_lt_of_mem_children).mpr h
  rw [check, if_pos hflag, hfound, Option.getD_some]

/-- Without a faulty node the search for escapes decides. -/
theorem check_of_not_faulty (hflags : root.Flagged)
    (hno : ∀ way node, Reaches children root way node → ¬ node.Faulty) (bytes : Bytes) :
    root.check bytes = match root.firstLegacyOctal bytes with
      | some escape => .error (.at (escape.startPosition bytes)
          "octal escape sequences are not allowed in strict mode")
      | none => .ok () := by
  have hflag : ¬ root.hasError = true := by
    rw [hflags.hasError_iff]
    rintro ⟨way, bad, hway, hfaulty⟩
    exact hno way bad hway hfaulty
  unfold check
  refine (if_neg hflag).trans ?_
  cases root.firstLegacyOctal bytes with
  | none => rfl
  | some escape => rfl

/-- For every tree over a source whose nodes stand between characters and have the right error
flags: the search for faults, which passes over subtrees, finds the first faulty node of all. The
tree is refused with an error of syntax exactly when some node is faulty, at the first such node,
and the message names what is missing exactly when this node is missing. Without a faulty node it is
refused exactly when a legacy octal escape can be reached through named nodes, at the first one. In
every other case it is accepted. -/
theorem check_eq_error_iff {source : Text} {root : Cst} (hscalar : source.isScalar = true)
    (hranges : root.OnBoundaries source) (hflags : root.Flagged) :
    (root.firstFault = root.nodes.find? fun node => decide node.Faulty) ∧
      (∀ e, root.check source.utf8 = .error e ↔
        (∃ bad, IsFirst children Faulty root bad ∧
          bad.ReportedAt source
            (if bad.missing then "missing " ++ (bad.type : Text) else "unexpected syntax") e) ∨
        (∀ way node, Reaches children root way node → ¬ node.Faulty) ∧
          ∃ escape, IsFirst exposed (LegacyEscape source) root escape ∧
            escape.ReportedAt source "octal escape sequences are not allowed in strict mode" e) ∧
      (root.check source.utf8 = .ok () ↔
        (∀ way node, Reaches children root way node → ¬ node.Faulty) ∧
          ∀ way node, Reaches exposed root way node → ¬ node.LegacyEscape source) := by
  refine ⟨firstFault_eq_find? hflags, ?_⟩
  have hfaults := searches_firstFault hflags
  have hescapes := searches_firstLegacyOctal hscalar hranges
  cases hfault : root.firstFault with
  | some bad =>
      have hfirst := (hfaults.eq_some_iff size_lt_of_mem_children).mp hfault
      obtain ⟨way, hway, hbad⟩ := hfirst.exists_reaches
      obtain ⟨first, last, hstands⟩ := hranges way bad hway
      have hsome : ¬ ∀ way node, Reaches children root way node → ¬ node.Faulty :=
        fun hno => hno way bad hway hbad
      rw [check_of_fault hflags hfirst]
      refine ⟨fun e => ?_, fun h => (by cases h), fun h => absurd h.1 hsome⟩
      rw [hfirst.exists_and_iff, or_iff_left fun h => hsome h.1, hstands.reportedAt_iff hscalar,
        Except.error.injEq]
  | none =>
      have hno := (hfaults.eq_none_iff size_lt_of_mem_children).mp hfault
      rw [check_of_not_faulty hflags hno]
      cases hoctal : root.firstLegacyOctal source.utf8 with
      | some escape =>
          have hfirst := (hescapes.eq_some_iff size_lt_of_mem_exposed).mp hoctal
          obtain ⟨way, hway, hescape⟩ := hfirst.exists_reaches
          obtain ⟨first, last, hstands, _⟩ := hescape.spells
          refine ⟨fun e => ?_, fun h => (by cases h), fun h => absurd hescape (h.2 way escape hway)⟩
          rw [or_iff_right fun ⟨_, hbad, _⟩ => not_isFirst hno hbad, and_iff_right hno,
            hfirst.exists_and_iff, hstands.reportedAt_iff hscalar, Except.error.injEq]
      | none =>
          have hnone := (hescapes.eq_none_iff size_lt_of_mem_exposed).mp hoctal
          refine ⟨fun e => ?_, fun _ => ⟨hno, hnone⟩, fun _ => rfl⟩
          refine ⟨fun h => (by cases h), ?_⟩
          rintro (⟨_, hbad, _⟩ | ⟨_, _, hescape, _⟩)
          · exact absurd hbad (not_isFirst hno)
          · exact absurd hescape (not_isFirst hnone)

/-! ## Conditions on a tree, checked on the list of its nodes -/

/-- The nodes of a tree are those that are reached from its root. -/
theorem mem_nodes_iff {node : Cst} :
    node ∈ root.nodes ↔ ∃ way, Reaches children root way node := by
  constructor
  · intro h
    induction hn : root.size using Nat.strongRecOn generalizing root with
    | ind n ih =>
        subst hn
        rw [nodes_eq, List.mem_cons, List.mem_flatMap] at h
        rcases h with rfl | ⟨child, hchild, hnode⟩
        · exact ⟨[], .here _⟩
        · obtain ⟨_, hway⟩ := ih _ (root.size_lt_of_mem_children child hchild) hnode rfl
          exact Reaches.of_mem hchild hway
  · rintro ⟨way, h⟩
    induction h with
    | here node =>
        rw [nodes_eq]
        exact List.mem_cons_self
    | down hchild _ ih =>
        rw [nodes_eq]
        exact List.mem_cons_of_mem _
          (List.mem_flatMap.mpr ⟨_, List.mem_of_getElem? hchild, ih⟩)

/-- Whether the marks tell of faults is decided node by node. -/
theorem flagged_iff : root.Flagged ↔
    ∀ node ∈ root.nodes, (node.hasError = true ↔ ∃ bad ∈ node.nodes, bad.Faulty) := by
  simp only [Flagged, mem_nodes_iff]
  constructor
  · rintro h node ⟨way, hway⟩
    rw [h way node hway]
    exact ⟨fun ⟨other, bad, hbad⟩ => ⟨bad, ⟨other, hbad.1⟩, hbad.2⟩,
      fun ⟨bad, ⟨other, hbad⟩, hfaulty⟩ => ⟨other, bad, hbad, hfaulty⟩⟩
  · intro h way node hway
    rw [h node ⟨way, hway⟩]
    exact ⟨fun ⟨bad, ⟨other, hbad⟩, hfaulty⟩ => ⟨other, bad, hbad, hfaulty⟩,
      fun ⟨other, bad, hbad⟩ => ⟨bad, ⟨other, hbad.1⟩, hbad.2⟩⟩

instance : DecidablePred Flagged :=
  fun _ => decidable_of_iff _ flagged_iff.symm

/-- Whether all nodes stand between characters is decided node by node. -/
theorem onBoundaries_iff : root.OnBoundaries source ↔
    ∀ node ∈ root.nodes, ∃ first ≤ source.length, ∃ last ≤ source.length,
      node.StandsBetween source first last := by
  simp only [OnBoundaries, mem_nodes_iff]
  constructor
  · rintro h node ⟨way, hway⟩
    obtain ⟨first, last, hstands⟩ := h way node hway
    exact ⟨first, Nat.le_trans hstands.first_le hstands.last_le, last, hstands.last_le, hstands⟩
  · intro h way node hway
    obtain ⟨first, _, last, _, hstands⟩ := h node ⟨way, hway⟩
    exact ⟨first, last, hstands⟩

instance (source : Text) : DecidablePred (OnBoundaries source) :=
  fun _ => decidable_of_iff _ onBoundaries_iff.symm

end Cst

/-! The trees of `f('\7')` behind a line with a character of two bytes, as a reader hands them out
when it finds the closing bracket and when it misses it. -/

namespace MissingBracket

def source : Text := "é\nf('\\7')"

/-- A node of the tree, whose flag is right. -/
def node (type : String) (start stop : Int) (children : List Cst) : Cst :=
  .make type start stop true false none none children

/-- The tree with what stands at the place of the bracket. -/
def tree (closing : List Cst) : Cst :=
  node "program" 0 10
    [node "expression_statement" 0 2 [node "identifier" 0 2 []],
      node "call_expression" 3 10
        [node "identifier" 3 4 [],
          node "arguments" 4 10 (node "string" 5 9 [node "escape_sequence" 6 8 []] :: closing)]]

/-- The bracket, a token without a name. -/
def bracket : Cst :=
  .make ")" 9 10 false false none none []

/-- No bracket, and something else in its place. -/
def missing : List Cst :=
  [.make ")" 9 9 false true none none [], node "ERROR" 9 10 []]

/-- While the bracket is missing its place is reported, and the escape before it is not. -/
theorem refused_at_first :
    (tree missing).OnBoundaries source ∧ (tree missing).Flagged ∧
      (tree [bracket]).OnBoundaries source ∧ (tree [bracket]).Flagged ∧
      (∃ bad, Cst.IsFirst Cst.children Cst.Faulty (tree missing) bad ∧
        bad.ReportedAt source
          (if bad.missing then "missing " ++ (bad.type : Text) else "unexpected syntax")
          ⟨"missing )", 2, 7⟩) ∧
      ∃ escape, Cst.IsFirst Cst.exposed (Cst.LegacyEscape source) (tree [bracket]) escape ∧
        escape.ReportedAt source "octal escape sequences are not allowed in strict mode"
          ⟨"octal escape sequences are not allowed in strict mode", 2, 4⟩ := by
  have hscalar : source.isScalar = true := by decide
  have hranges : (tree missing).OnBoundaries source := by decide +kernel
  have hflags : (tree missing).Flagged := by decide +kernel
  have hranges' : (tree [bracket]).OnBoundaries source := by decide +kernel
  have hflags' : (tree [bracket]).Flagged := by decide +kernel
  have hclean : ∀ node ∈ (tree [bracket]).nodes, ¬ node.Faulty := by decide +kernel
  have hoctal : (tree [bracket]).check source.utf8 =
      .error ⟨"octal escape sequences are not allowed in strict mode", 2, 4⟩ := by decide +kernel
  have hmissing : (tree missing).check source.utf8 = .error ⟨"missing )", 2, 7⟩ := by
    decide +kernel
  obtain ⟨_, hrefused, _⟩ := Cst.check_eq_error_iff hscalar hranges hflags
  obtain ⟨_, hrefused', _⟩ := Cst.check_eq_error_iff hscalar hranges' hflags'
  refine ⟨hranges, hflags, hranges', hflags', ?_, ?_⟩
  · rcases (hrefused _).mp hmissing with hfault | ⟨hno, _⟩
    · exact hfault
    · have hfaulty : ∃ node ∈ (tree missing).nodes, node.Faulty := by decide +kernel
      obtain ⟨node, hnode, hfaulty⟩ := hfaulty
      obtain ⟨way, hway⟩ := Cst.mem_nodes_iff.mp hnode
      exact absurd hfaulty (hno way node hway)
  · rcases (hrefused' _).mp hoctal with ⟨bad, hfirst, _⟩ | ⟨_, hescape⟩
    · obtain ⟨way, hway, hfaulty⟩ := hfirst.exists_reaches
      exact absurd hfaulty (hclean bad (Cst.mem_nodes_iff.mpr ⟨way, hway⟩))
    · exact hescape

end MissingBracket

end StoryCatalog

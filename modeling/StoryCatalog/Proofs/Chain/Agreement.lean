import StoryCatalog.Extract
import StoryCatalog.Proofs.Chain.Stories
import StoryCatalog.Proofs.Syntax.Attribute
import StoryCatalog.Proofs.Syntax.Concrete

/-!
# Both readers report the same stories

A concrete tree and an attribute tree of one abstract tree have the same stories, at the same
positions (`stories_agree`): those of the abstract tree. The walks run side by side, and the two
ways of finding a position meet in the position of a character offset.
-/

namespace StoryCatalog

open Chain

/-- A member access ends behind the same characters in both trees. -/
theorem Cst.Spells.stop_eq {source : Text} {node : Cst} {tree : Tree} (h : Spells source node tree)
    {object : Option Tree} {property : Option Text}
    (hmember : tree.shape = .member object property) :
    ∃ k : Nat, k ≤ source.length ∧ tree.span.stop = k ∧
      node.stop = (Text.utf8 (source.take k)).length := by
  cases h with
  | @member _ _ _ _ _ _ stop _ _ _ _ _ _ _ _ hbound hstop => exact ⟨stop, hbound, rfl, hstop⟩
  | call | identifier | string | other => cases hmember

/-- A member expression of either tree ends where its partner ends. -/
theorem Estree.Spells.stop_eq {value : Estree} {tree : Tree} (h : Spells value tree)
    {object : Option Tree} {property : Option Text}
    (hmember : tree.shape = .member object property) :
    value.span.stop = tree.span.stop := by
  cases h with
  | member _ hrange =>
      rw [Estree.span, hrange]
      rfl
  | call | identifier | string | other => cases hmember

section

variable (pattern : Pattern) {source : Text} {tree : Tree}

/-- The stories of a concrete tree are those of the abstract one. -/
theorem Cst.storiesByPoint_eq (hscalar : source.isScalar = true) {root : Cst}
    (h : Wrapped (Spells source) root tree) :
    (Cst.view source.utf8).storiesByPoint pattern source.utf8 root =
      Tree.view.storiesByOffset pattern source tree := by
  have hcovers : (Cst.view source.utf8).Covers (Spells source) [root] [tree] := h.covers .nil
  refine flatten_congr pattern (forall₂_imp_of_mem ((Cst.simulates source).found hcovers) ?_)
  rintro found hfound found' _ ⟨⟨hkind, _⟩, hstories, _⟩
  refine ⟨hkind, forall₂_imp_of_mem hstories ?_⟩
  rintro declared hdeclared declared' _ ⟨hname, node, other, hpair, hspan, hspan'⟩
  obtain ⟨hspells, _, _, hmember⟩ := hpair
  obtain ⟨k, hbound, hstop', hstop⟩ := hspells.stop_eq hmember
  have hend : declared.span.stop = (Text.utf8 (source.take k)).length := by
    rw [hspan]
    exact hstop
  have hend' : declared'.span.stop = k := by
    rw [hspan']
    exact hstop'
  refine ⟨hname, ?_⟩
  rw [View.resolve_pointTable hfound hdeclared, hend, bytePosition_utf8 hscalar, hend',
    LineIndex.resolve_ofText source hbound]

/-- The stories of an attribute tree are those of the abstract one. -/
theorem Estree.storiesByOffset_eq {root : Estree} (h : Spells root tree) :
    Estree.view.storiesByOffset pattern source root =
      Tree.view.storiesByOffset pattern source tree := by
  refine flatten_congr pattern ((Estree.simulates.found (.node h .nil)).imp ?_)
  rintro found found' ⟨⟨hkind, _⟩, hstories, _⟩
  refine ⟨hkind, hstories.imp ?_⟩
  rintro declared declared' ⟨hname, node, other, ⟨hspells, _, _, hmember⟩, hspan, hspan'⟩
  have hend : declared.span.stop = declared'.span.stop := by
    rw [hspan, hspan']
    exact hspells.stop_eq hmember
  exact ⟨hname, by rw [hend]⟩

/-- Every node that the walk of an attribute tree asks for its span has one. -/
theorem Estree.not_lacksRange {root : Estree} (h : Spells root tree) :
    (Estree.view.walk pattern root).consulted.any lacksRange = false := by
  have hconsulted : List.Forall₂ Spells (Estree.view.walk pattern root).consulted
      (Tree.view.walk pattern tree).consulted := Estree.simulates.walk_consulted (.node h .nil)
  generalize (Estree.view.walk pattern root).consulted = consulted at hconsulted
  generalize (Tree.view.walk pattern tree).consulted = consulted' at hconsulted
  induction hconsulted with
  | nil => rfl
  | cons hspells _ ih => simp [ih, lacksRange, hspells.isSome_range?]

/-- Every story of a concrete tree has a recorded position, so the stories can be laid out. -/
theorem Cst.exists_storiesByPoint_eq_ok (source : Bytes) (root : Cst) :
    ∃ stories, (Cst.view source).storiesByPoint pattern source root = .ok stories :=
  exists_flatten_eq_ok pattern fun _ hfound _ hdeclared =>
    ⟨_, View.resolve_pointTable hfound hdeclared⟩

end

/-- Whatever the text, the names looked for and the trees: a concrete tree and an attribute tree of
one abstract tree have the same stories, and both have some list of them. -/
theorem stories_agree (pattern : Pattern) (source : String) {tree : Tree} {concrete : Cst}
    {strict : Estree} (hconcrete : Cst.Wrapped (Cst.Spells source) concrete tree)
    (hstrict : Estree.Spells strict tree) :
    ∃ stories,
      (Cst.view (Text.utf8 source)).storiesByPoint pattern (Text.utf8 source) concrete =
        .ok stories ∧
      strict.stories pattern source = .ok stories ∧
      Tree.view.storiesByOffset pattern source tree = .ok stories := by
  have hscalar := Text.isScalar_ofString source
  obtain ⟨stories, hstories⟩ :=
    Cst.exists_storiesByPoint_eq_ok pattern (Text.utf8 source) concrete
  have htree : Tree.view.storiesByOffset pattern source tree = .ok stories := by
    rw [← Cst.storiesByPoint_eq pattern hscalar hconcrete, hstories]
  refine ⟨stories, hstories, ?_, htree⟩
  rw [Estree.stories, Estree.not_lacksRange pattern hstrict, Estree.storiesByOffset_eq pattern
    hstrict, htree]
  rfl

/-! The two trees of `(storiesOf(/**/'é')).add('x')`: parentheses around the object, a comment among
the arguments, a character of two bytes, and attributes in another order than the source. -/

namespace Parenthesized

/-- A node of the grammar, which may fill a field. -/
def rule (type : String) (start stop : Int) (field : Option String) (children : List Cst) : Cst :=
  .make type start stop true false field none children

/-- A node of a type with a range and further attributes. -/
def typed (type : Text) (start stop : Int) (attributes : List (String × Estree)) : Estree :=
  .node (("type", .text type) :: attributes ++
    [("range", .list [.integer start, .integer stop])])

def source : String := "(storiesOf(/**/'é')).add('x')"

def groupTree : Tree :=
  .call (some (.identifier "storiesOf" ⟨1, 10⟩)) [.string "é" ⟨15, 18⟩] ⟨1, 19⟩

def tree : Tree :=
  .call (some (.member (some groupTree) (some "add") ⟨0, 24⟩)) [.string "x" ⟨25, 28⟩] ⟨0, 29⟩

def groupConcrete : Cst :=
  rule "parenthesized_expression" 0 21 (some "object")
    [rule "call_expression" 1 20 none
      [rule "identifier" 1 10 (some "function") [],
        rule "arguments" 10 20 (some "arguments")
          [rule "comment" 11 15 none [],
            rule "string" 15 19 none [rule "string_fragment" 16 18 none []]]]]

def concrete : Cst :=
  rule "call_expression" 0 30 none
    [rule "member_expression" 0 25 (some "function")
      [groupConcrete, rule "property_identifier" 22 25 (some "property") []],
      rule "arguments" 25 30 (some "arguments")
        [rule "string" 26 29 none [rule "string_fragment" 27 28 none []]]]

def groupStrict : Estree :=
  typed "CallExpression" 1 19
    [("callee", typed "Identifier" 1 10 [("name", .text "storiesOf")]),
      ("arguments", .list [typed "Literal" 15 18 [("value", .text "é")]])]

def strict : Estree :=
  typed "CallExpression" 0 29
    [("arguments", .list [typed "Literal" 25 28 [("value", .text "x")]]),
      ("callee", typed "MemberExpression" 0 24
        [("property", typed "Identifier" 21 24 [("name", .text "add")]), ("object", groupStrict),
          ("computed", .bool false)])]

/-- A string node with one fragment spells the literal of this fragment. -/
theorem spells_literal {node : Cst} {value : Text} {span : Span} (htype : node.type = "string")
    {part : Cst} (hparts : node.namedChildren = [part]) (hpart : part.type = "string_fragment")
    (hleaf : part.namedChildren = []) (htext : part.text (Text.utf8 source) = value) :
    Cst.Spells source node (.string value span) := by
  refine .string htype ?_
  rw [hparts, ← List.append_nil value]
  exact .fragment hpart hleaf htext .nil

theorem shows_leaf {R : Cst → Tree → Prop} {node : Cst} (h : node.IsOther)
    (hleaf : node.namedChildren = []) : Cst.Shows R [node] [] := by
  have hcontent : node.content = [] := by rw [Cst.content, hleaf, List.filter_nil]
  have hinner : Cst.Shows R node.content [] := by
    rw [hcontent]
    exact .nil
  exact .layer h (by simp [Cst.CommentsAreLeaves, hleaf]) hinner .nil

/-- The call of the group in the concrete tree spells that of the example. -/
theorem wrapped_group : Cst.Wrapped (Cst.Spells source) groupConcrete groupTree := by
  refine .parenthesized rfl ?_ rfl (.bare ?_)
  · simp [Cst.CommentsAreLeaves, Cst.namedChildren, groupConcrete, rule, Cst.make]
  · refine .call rfl rfl (.bare (.identifier rfl (by decide +kernel) rfl)) rfl rfl
      (.cons (.bare ?_) .nil)
    exact spells_literal rfl rfl rfl rfl (by decide +kernel)

/-- The concrete tree of the example spells its program. -/
theorem spells_concrete : Cst.Spells source concrete tree := by
  refine .call rfl rfl (.bare ?_) rfl rfl
    (.cons (.bare (spells_literal rfl rfl rfl rfl (by decide +kernel))) .nil)
  refine .member rfl rfl wrapped_group rfl (by decide) (by decide +kernel) ?_
    (.node wrapped_group ?_) (by decide) (by decide +kernel)
  · simp [Cst.CommentsAreLeaves, Cst.namedChildren, groupConcrete, rule, Cst.make]
  · exact shows_leaf (.inr (by decide)) rfl

theorem holds_nil {value : Estree} (h : value.fieldNodes = []) : value.Holds [] :=
  ⟨.nil, [], by rw [h]; exact .nil, by simp⟩

theorem spells_group : Estree.Spells groupStrict groupTree :=
  .call rfl rfl rfl (.identifier rfl rfl rfl (holds_nil rfl)) rfl
    (.cons (.string rfl rfl rfl (holds_nil rfl)) .nil)

/-- The strict tree of the example spells the same program. -/
theorem spells_strict : Estree.Spells strict tree := by
  refine .call rfl rfl rfl ?_ rfl (.cons (.string rfl rfl rfl (holds_nil rfl)) .nil)
  refine .member rfl rfl rfl rfl spells_group rfl rfl
    ⟨List.pairwise_singleton _ _, [_], .swap _ _ _, ?_⟩
  intro leaf hleaf
  rw [List.mem_singleton.mp hleaf]
  exact ⟨rfl, by simp only [Estree.HasType]; decide⟩

/-- Both readers put the story at the `a` of `add`. -/
theorem stories_eq :
    (Cst.view (Text.utf8 source)).storiesByPoint .standard (Text.utf8 source) concrete =
        .ok [⟨"é", "x", ⟨1, 22⟩⟩] ∧
      strict.stories .standard source = .ok [⟨"é", "x", ⟨1, 22⟩⟩] := by
  obtain ⟨stories, hconcrete, hstrict, htree⟩ :=
    stories_agree .standard source (.bare spells_concrete) spells_strict
  have hstories : Tree.view.storiesByOffset .standard source tree = .ok [⟨"é", "x", ⟨1, 22⟩⟩] := by
    decide +kernel
  rw [htree] at hstories
  rw [hconcrete, hstrict, Except.ok.inj hstories]
  exact ⟨rfl, rfl⟩

end Parenthesized

end StoryCatalog

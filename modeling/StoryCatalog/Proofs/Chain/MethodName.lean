import StoryCatalog.Proofs.Chain.Stories
import StoryCatalog.Proofs.Text.Boundary
import StoryCatalog.Syntax.Tree

/-!
# The position of a story is that of its method name

The span of a story ends right behind the name of its method. The end is resolved, and the column is
moved back by the length of the name, in characters. When the name stands before the end and holds
no newline, this is the position of its first character (`Position.starts_moveBack`), whether spans
count characters and a line index resolves them or spans count bytes and a point table does
(`View.positions_start_method`).

An offset counts units of a text: its characters (`id`) or its bytes (`Text.utf8`).
-/

namespace StoryCatalog

open Chain

namespace Text

variable {α : Type} (units : Text → List α) (source name : Text)

/-- The units right before an offset, which is in range, are those of the name. -/
structure EndsAt (stop : Int) : Prop where
  nonneg : 0 ≤ stop
  le_length : stop ≤ (units source).length
  suffix : units name <:+ (units source).take stop.toNat

/-- The name stands in the source between these two parts, and ends at the offset. -/
structure Occurs (stop : Int) (before after : Text) : Prop where
  source_eq : source = before ++ name ++ after
  stop_eq : stop = (units (before ++ name)).length

end Text

/-- A position is that of the first character of the name that ends at an offset. Only an empty name
can end inside a character, and has no first character then. -/
structure Position.Starts {α : Type} (units : Text → List α) (source name : Text) (stop : Int)
    (position : Position) : Prop where
  occurs : name ≠ [] → ∃ before after, Text.Occurs units source name stop before after
  eq_positionAt : ∀ before after, Text.Occurs units source name stop before after →
    position = source.positionAt before.length
  one_le_line : 1 ≤ position.line
  one_le_column : 1 ≤ position.column

/-- The span of every story of a walk ends in the name of the method. -/
def View.EndsInName {N α : Type} (view : View N) (units : Text → List α) (pattern : Pattern)
    (source : Text) (root : N) : Prop :=
  ∀ found ∈ (view.walk pattern root).found, ∀ declared ∈ found.stories,
    Text.EndsAt units source pattern.method declared.span.stop

/-- A story has the kind of its chain and its own name, and its position is that of the first
character of its method. -/
structure Story.Starts {N α : Type} (units : Text → List α) (pattern : Pattern) (source : Text)
    (declared : Match N × NamedSpan) (story : Story) : Prop where
  kind : story.kind = declared.1.kind.name
  name : story.story = declared.2.name
  position : story.position.Starts units source pattern.method declared.2.span.stop

/-! ## Where a name stands -/

namespace Text

theorem lastLine_append {t u : Text} (h : CodePoint.newline ∉ u) :
    lastLine (t ++ u) = lastLine t ++ u := by
  have hall : ∀ c ∈ u.reverse, decide (c ≠ CodePoint.newline) = true := by
    intro c hc
    rw [decide_eq_true_eq]
    rintro rfl
    exact h (List.mem_reverse.mp hc)
  rw [lastLine, List.reverse_append, List.takeWhile_append_of_pos hall, List.reverse_append,
    List.reverse_reverse, lastLine]

/-- From the start of a name without newlines to its end the line stays, and the column grows by the
length of the name. -/
theorem positionAt_append (before : Text) {name : Text} (h : CodePoint.newline ∉ name)
    (after : Text) :
    positionAt (before ++ name ++ after) (before ++ name).length =
      ⟨(positionAt (before ++ name ++ after) before.length).line,
        (positionAt (before ++ name ++ after) before.length).column + name.length⟩ := by
  have hstart : (before ++ name ++ after).take before.length = before := by
    rw [List.append_assoc, List.take_left]
  rw [positionAt, positionAt, List.take_left, hstart, List.count_append,
    List.count_eq_zero.mpr h, lastLine_append h, List.length_append]
  congr 1
  dsimp only
  omega

variable {source name : Text} {stop : Int}

/-- Characters before an offset are those of a part of the source. -/
theorem EndsAt.exists_occurs_id (h : EndsAt id source name stop) :
    ∃ before after, Occurs id source name stop before after := by
  obtain ⟨before, hbefore⟩ := h.suffix
  refine ⟨before, source.drop stop.toNat, ?_, ?_⟩
  · rw [show before ++ name = source.take stop.toNat from hbefore, List.take_append_drop]
  · have hle : stop.toNat ≤ source.length := Int.toNat_le.mpr h.le_length
    have hnonneg := h.nonneg
    rw [show before ++ name = source.take stop.toNat from hbefore, id, List.length_take,
      Nat.min_eq_left hle, Int.toNat_of_nonneg hnonneg]

/-- Bytes before an offset are those of a part of the source, unless they are none. -/
theorem EndsAt.exists_occurs_utf8 (h : EndsAt utf8 source name stop) (hname : name ≠ []) :
    ∃ before after, Occurs utf8 source name stop before after := by
  obtain ⟨x, hx⟩ := h.suffix
  have hbytes : source.utf8 = x ++ name.utf8 ++ source.utf8.drop stop.toNat := by
    rw [hx, List.take_append_drop]
  obtain ⟨before, after, hsource, rfl⟩ := exists_eq_append_of_utf8 hname hbytes
  refine ⟨before, after, hsource, ?_⟩
  have hle : stop.toNat ≤ source.utf8.length := Int.toNat_le.mpr h.le_length
  have hnonneg := h.nonneg
  rw [utf8_append, hx, List.length_take, Nat.min_eq_left hle, Int.toNat_of_nonneg hnonneg]

end Text

/-- Moved back by the length of the name, the position of the end is that of the start. -/
theorem Position.starts_moveBack {α : Type} {units : Text → List α} {source name : Text}
    {stop : Int} (hline : CodePoint.newline ∉ name)
    (hoccurs : name ≠ [] → ∃ before after, Text.Occurs units source name stop before after)
    {position : Position} (hone : 1 ≤ position.line ∧ 1 ≤ position.column)
    (hend : ∀ before after, Text.Occurs units source name stop before after →
      position = source.positionAt (before ++ name).length) :
    Position.Starts units source name stop ⟨position.line, position.column - name.length⟩ := by
  have hstart : ∀ before after, Text.Occurs units source name stop before after →
      Position.mk position.line (position.column - name.length) =
        source.positionAt before.length := by
    intro before after h
    rw [hend before after h, h.source_eq, Text.positionAt_append before hline after]
    simp
  refine ⟨hoccurs, hstart, hone.1, ?_⟩
  by_cases hname : name = []
  · subst hname
    simpa using hone.2
  · obtain ⟨before, after, h⟩ := hoccurs hname
    have hcolumn := congrArg Position.column (hstart before after h)
    simp only [Text.positionAt] at hcolumn
    show 1 ≤ position.column - name.length
    omega

theorem Text.one_le_positionAt (source : Text) (offset : Nat) :
    1 ≤ (source.positionAt offset).line ∧ 1 ≤ (source.positionAt offset).column := by
  simp only [positionAt]
  omega

theorem one_le_bytePosition (source : Bytes) (offset : Int) :
    1 ≤ (bytePosition source offset).line ∧ 1 ≤ (bytePosition source offset).column := by
  simp only [bytePosition, charColumn, pointAt]
  omega

/-! ## Stories -/

/-- Stories are laid out when each of their ends resolves, and then relate to what was declared as
each of them does. -/
theorem exists_flatten_of_forall {N : Type} {pattern : Pattern}
    {resolve : Int → Except LocationError Position} {found : List (Match N)}
    {R : Match N × NamedSpan → Story → Prop}
    (h : ∀ chain ∈ found, ∀ declared ∈ chain.stories, ∃ position,
      resolve declared.span.stop = .ok position ∧
        R (chain, declared) ⟨chain.kind.name, declared.name,
          ⟨position.line, position.column - pattern.method.length⟩⟩) :
    ∃ stories, flatten pattern resolve (found.map Match.declaration) = .ok stories ∧
      List.Forall₂ R (declared found) stories := by
  obtain ⟨stories, hstories⟩ := exists_flatten_eq_ok pattern fun chain hchain declared hdeclared =>
    let ⟨position, hposition, _⟩ := h chain hchain declared hdeclared
    ⟨position, hposition⟩
  refine ⟨stories, hstories, ?_⟩
  rw [flatten_eq_mapM] at hstories
  refine forall₂_imp_of_mem (forall₂_of_mapM_eq_ok hstories).flip ?_
  rintro ⟨chain, declared⟩ hmem story _ hstory
  obtain ⟨hchain, hdeclared⟩ := mem_declared.mp hmem
  obtain ⟨position, hposition, hrelated⟩ := h chain hchain declared hdeclared
  rw [Story.ofSpan, hposition] at hstory
  cases hstory
  exact hrelated

namespace View

variable {N : Type} {view : View N} {pattern : Pattern} {source : Text} {root : N}

/-- A line index finds the first character of every method. -/
theorem storiesByOffset_start (hline : CodePoint.newline ∉ pattern.method)
    (hend : view.EndsInName id pattern source root) :
    ∃ stories, view.storiesByOffset pattern source root = .ok stories ∧
      List.Forall₂ (Story.Starts id pattern source) (declared (view.walk pattern root).found)
        stories := by
  refine exists_flatten_of_forall fun chain hchain declared hdeclared => ?_
  have hends := hend chain hchain declared hdeclared
  have hle : declared.span.stop.toNat ≤ source.length := Int.toNat_le.mpr hends.le_length
  have hresolve := LineIndex.resolve_ofText source hle
  rw [Int.toNat_of_nonneg hends.nonneg] at hresolve
  refine ⟨_, hresolve, rfl, rfl, ?_⟩
  refine Position.starts_moveBack hline (fun _ => hends.exists_occurs_id)
    (source.one_le_positionAt _) ?_
  intro before after hoccurs
  rw [hoccurs.stop_eq, Int.toNat_natCast]
  rfl

/-- A point table finds the first character of every method. -/
theorem storiesByPoint_start (hline : CodePoint.newline ∉ pattern.method)
    (hscalar : source.isScalar = true) (hend : view.EndsInName Text.utf8 pattern source root) :
    ∃ stories, view.storiesByPoint pattern source.utf8 root = .ok stories ∧
      List.Forall₂ (Story.Starts Text.utf8 pattern source)
        (declared (view.walk pattern root).found) stories := by
  refine exists_flatten_of_forall fun chain hchain declared hdeclared => ?_
  have hends := hend chain hchain declared hdeclared
  refine ⟨_, resolve_pointTable hchain hdeclared, rfl, rfl, ?_⟩
  refine Position.starts_moveBack hline hends.exists_occurs_utf8 (one_le_bytePosition _ _) ?_
  intro before after hoccurs
  have htake : source.take (before ++ pattern.method).length = before ++ pattern.method := by
    rw [hoccurs.source_eq, List.take_left]
  have hposition := bytePosition_utf8 hscalar (before ++ pattern.method).length
  rw [htake] at hposition
  rw [hoccurs.stop_eq, hposition]

/-- Whatever the source, the tree and the names looked for: when the name of the method holds no
newline and stands right before the end of the span of every story, the stories are laid out without
an error, and the position of each is that of the first character of its method. This holds of spans
that count characters, resolved by a line index, and of spans that count bytes, resolved by the
points that the source has. -/
theorem positions_start_method (view : View N) (source : Text) (root : N)
    (hline : CodePoint.newline ∉ pattern.method) :
    (view.EndsInName id pattern source root →
        ∃ stories, view.storiesByOffset pattern source root = .ok stories ∧
          List.Forall₂ (Story.Starts id pattern source)
            (declared (view.walk pattern root).found) stories) ∧
      (source.isScalar = true → view.EndsInName Text.utf8 pattern source root →
        ∃ stories, view.storiesByPoint pattern source.utf8 root = .ok stories ∧
          List.Forall₂ (Story.Starts Text.utf8 pattern source)
            (declared (view.walk pattern root).found) stories) :=
  ⟨storiesByOffset_start hline, storiesByPoint_start hline⟩

end View

/-! A chain over two lines, with a character of two bytes before the method. -/

namespace TwoLines

def source : Text := "storiesOf('é')\n  .add('x')"

/-- The tree of the source, whose spans count this many units of the character `é`. -/
def tree (width : Int) : Tree :=
  .call
    (some (.member
      (some (.call (some (.identifier "storiesOf" ⟨0, 9⟩)) [.string "é" ⟨10, 12 + width⟩]
        ⟨0, 13 + width⟩))
      (some "add") ⟨0, 20 + width⟩))
    [.string "x" ⟨21 + width, 24 + width⟩] ⟨0, 25 + width⟩

/-- The ends of the stories that a tree declares. -/
def stops (tree : Tree) : List Int :=
  (declared (Tree.view.walk .standard tree).found).map fun entry => entry.2.span.stop

section

variable {α : Type} {units : Text → List α} {tree : Tree} {stop : Int}

theorem endsInName (hstops : stops tree = [stop]) (h : Text.EndsAt units source "add" stop) :
    Tree.view.EndsInName units .standard source tree := by
  intro found hfound story hstory
  have hmem : story.span.stop ∈ stops tree :=
    List.mem_map_of_mem (f := fun entry => entry.2.span.stop) (mem_declared.mpr ⟨hfound, hstory⟩)
  rw [hstops, List.mem_singleton] at hmem
  rw [hmem]
  exact h

theorem starts (hstops : stops tree = [stop]) {story : Story}
    (h : List.Forall₂ (Story.Starts units .standard source)
      (declared (Tree.view.walk .standard tree).found) [story]) :
    story.position.Starts units source "add" stop := by
  obtain ⟨entry, hentry, hstart⟩ := exists_of_forall₂_of_mem h.flip (List.mem_singleton_self _)
  have hmem : entry.2.span.stop ∈ stops tree := List.mem_map_of_mem hentry
  rw [hstops, List.mem_singleton] at hmem
  rw [← hmem]
  exact hstart.position

end

/-- The story stands at the `a` of `add`, on the second line, in characters as in bytes. -/
theorem positions_start :
    Tree.view.EndsInName id .standard source (tree 1) ∧
      Tree.view.EndsInName Text.utf8 .standard source (tree 2) ∧
      Tree.view.storiesByOffset .standard source (tree 1) = .ok [⟨"é", "x", ⟨2, 4⟩⟩] ∧
      Tree.view.storiesByPoint .standard source.utf8 (tree 2) = .ok [⟨"é", "x", ⟨2, 4⟩⟩] ∧
      Position.Starts id source "add" 21 ⟨2, 4⟩ ∧
      Position.Starts Text.utf8 source "add" 22 ⟨2, 4⟩ := by
  have hline : CodePoint.newline ∉ Pattern.standard.method := by decide
  have hstops : stops (tree 1) = [21] := by decide +kernel
  have hstops' : stops (tree 2) = [22] := by decide +kernel
  have hcharacters : Tree.view.EndsInName id .standard source (tree 1) :=
    endsInName hstops ⟨by decide, by decide, by decide⟩
  have hbytes : Tree.view.EndsInName Text.utf8 .standard source (tree 2) :=
    endsInName hstops' ⟨by decide, by decide, by decide⟩
  have hoffset : Tree.view.storiesByOffset .standard source (tree 1) =
      .ok [⟨"é", "x", ⟨2, 4⟩⟩] := by decide +kernel
  have hpoint : Tree.view.storiesByPoint .standard source.utf8 (tree 2) =
      .ok [⟨"é", "x", ⟨2, 4⟩⟩] := by decide +kernel
  obtain ⟨stories, hstories, hstart⟩ :=
    (View.positions_start_method Tree.view source (tree 1) hline).1 hcharacters
  obtain ⟨others, hothers, hstart'⟩ :=
    (View.positions_start_method Tree.view source (tree 2) hline).2 (by decide) hbytes
  rw [hoffset] at hstories
  rw [hpoint] at hothers
  cases hstories
  cases hothers
  exact ⟨hcharacters, hbytes, hoffset, hpoint, starts hstops hstart, starts hstops' hstart'⟩

end TwoLines

end StoryCatalog

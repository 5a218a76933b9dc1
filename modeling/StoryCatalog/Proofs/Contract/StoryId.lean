import StoryCatalog.Contract.Record
import StoryCatalog.Proofs.Chain.Apart
import StoryCatalog.Proofs.Location.Inverse
import StoryCatalog.Proofs.Text.Decimal

/-!
# Identifiers tell the stories of a file apart

An identifier tells the position that it was made from, because a number ends where the first
character stands that belongs to no number (`storyId_inj`). In a tree with well-formed spans no two
stories end at the same offset, and different offsets have different positions, so no two stories of
a file have the same position or the same identifier (`storyIds_distinct`).
-/

namespace StoryCatalog

/-- The identifiers of positions in one file tell these positions, whatever the names. -/
theorem storyId_inj {path kind story kind' story' : Text} {line column line' column' : Int}
    (h : storyId path line column kind story = storyId path line' column' kind' story') :
    line = line' ∧ column = column' := by
  have hcolumn : Text.ofString ":C" = 0x3A :: Text.ofString "C" := by decide
  have hnames : Text.ofString ":" = [0x3A] := by decide
  simp only [storyId, List.append_assoc, List.append_cancel_left_eq] at h
  rw [hcolumn, hnames] at h
  -- a colon ends the line, and another one the column, whatever colons the names hold
  obtain ⟨hline, hrest⟩ := Text.ofInt_append_inj (by decide) (by decide) h
  have hbehind := List.append_cancel_left
    (show Text.ofString "C" ++ _ = Text.ofString "C" ++ _ from hrest)
  exact ⟨hline, (Text.ofInt_append_inj (by decide) (by decide) hbehind).1⟩

theorem Position.ext {p q : Position} (hline : p.line = q.line) (hcolumn : p.column = q.column) :
    p = q :=
  congrArg₂ Position.mk hline hcolumn

namespace Text

/-- The offset stands before or behind a character of the text. -/
def IsOffset (t : Text) (offset : Int) : Prop :=
  0 ≤ offset ∧ offset ≤ t.length

/-- The offset stands before or behind a character in the bytes of the text. -/
def IsByteOffset (t : Text) (offset : Int) : Prop :=
  ∃ k ≤ t.length, offset = (utf8 (t.take k)).length

/-- Different offsets have different positions. -/
theorem positionAt_inj {t : Text} {j k : Nat} (hj : j ≤ t.length) (hk : k ≤ t.length)
    (h : t.positionAt j = t.positionAt k) : j = k := by
  rcases Nat.lt_trichotomy j k with hlt | heq | hgt
  · exact absurd h (positionAt_before hlt hk).ne
  · exact heq
  · exact absurd h.symm (positionAt_before hgt hj).ne

end Text

/-- No two of the stories have the same position, and in a file at whatever path no two of them have
the same identifier. -/
structure Story.Distinct (stories : List Story) : Prop where
  positions : (stories.map Story.position).Nodup
  storyIds : ∀ path, (stories.map fun story => (StoryRecord.ofStory path story).storyId).Nodup

theorem Story.Distinct.of_positions {stories : List Story}
    (h : (stories.map Story.position).Nodup) : Distinct stories where
  positions := h
  storyIds := by
    intro path
    rw [List.Nodup, List.pairwise_map] at h ⊢
    refine h.imp ?_
    intro first second hne heq
    obtain ⟨hline, hcolumn⟩ := storyId_inj heq
    exact hne (Position.ext hline hcolumn)

namespace View

open Chain

variable {N : Type} {view : View N} {pattern : Pattern} {IsOffset : Int → Prop}

theorem map_stop_declared (found : List (Match N)) :
    (declared found).map (fun entry => entry.2.span.stop) = stops found := by
  simp only [declared, List.map_flatMap, List.map_map]
  rfl

/-- In a tree with well-formed spans the stories of the walk have different positions, once the
ends of stories have positions and different offsets have different ones. -/
theorem Nested.exists_distinct {root : N} (h : view.Nested IsOffset root)
    {resolve : Int → Except LocationError Position} (position : Int → Position)
    (hresolve : ∀ chain ∈ (view.walk pattern root).found, ∀ story ∈ chain.stories,
      IsOffset story.span.stop → resolve story.span.stop = .ok (position story.span.stop))
    (hposition : ∀ first second, IsOffset first → IsOffset second →
      position first = position second → first = second) :
    ∃ stories, flatten pattern resolve ((view.walk pattern root).found.map Match.declaration) =
      .ok stories ∧ Story.Distinct stories := by
  -- the ends are different by the spans, and so are their positions and what is made of these
  obtain ⟨hoffsets, _, hnodup⟩ := h.endApart_walk pattern
  rw [← map_stop_declared] at hoffsets hnodup
  have hmem : ∀ entry ∈ declared (view.walk pattern root).found, IsOffset entry.2.span.stop :=
    fun entry hentry => hoffsets _ (List.mem_map_of_mem hentry)
  have hflatten := flatten_eq_laidOut pattern fun chain hchain story hstory =>
    hresolve chain hchain story hstory (hmem (chain, story) (mem_declared.mpr ⟨hchain, hstory⟩))
  refine ⟨_, hflatten, .of_positions ?_⟩
  rw [laidOut, List.map_map]
  rw [List.Nodup, List.pairwise_map] at hnodup ⊢
  refine hnodup.imp_of_mem ?_
  intro first second hfirst hsecond hne heq
  refine hne (hposition _ _ (hmem first hfirst) (hmem second hsecond) ?_)
  -- the column is moved back by the same length on both sides
  obtain ⟨hline, hcolumn⟩ := Position.mk.inj heq
  exact Position.ext hline (by omega)

/-- In a tree whose spans are character offsets the line index finds all stories apart. -/
theorem Nested.distinct_storiesByOffset (pattern : Pattern) {source : Text} {root : N}
    (h : view.Nested source.IsOffset root) :
    ∃ stories, view.storiesByOffset pattern source root = .ok stories ∧
      Story.Distinct stories := by
  refine h.exists_distinct (fun offset => source.positionAt offset.toNat) ?_ ?_
  · intro _ _ story _ hoffset
    obtain ⟨k, hk⟩ := Int.eq_ofNat_of_zero_le hoffset.1
    have hlength := hoffset.2
    rw [hk] at hlength ⊢
    exact LineIndex.resolve_ofText source (Int.ofNat_le.mp hlength)
  · intro first second hfirst hsecond heq
    obtain ⟨hlow, hhigh⟩ := hfirst
    obtain ⟨hlow', hhigh'⟩ := hsecond
    have := Text.positionAt_inj (by omega) (by omega) heq
    omega

/-- In a tree whose spans are byte offsets the table of points finds all stories apart. -/
theorem Nested.distinct_storiesByPoint (pattern : Pattern) {source : Text}
    (hscalar : source.isScalar = true) {root : N} (h : view.Nested source.IsByteOffset root) :
    ∃ stories, view.storiesByPoint pattern source.utf8 root = .ok stories ∧
      Story.Distinct stories := by
  refine h.exists_distinct (bytePosition source.utf8) ?_ ?_
  · intro chain hchain story hstory _
    exact resolve_pointTable hchain hstory
  · rintro _ _ ⟨j, hj, rfl⟩ ⟨k, hk, rfl⟩ heq
    rw [bytePosition_utf8 hscalar, bytePosition_utf8 hscalar] at heq
    rw [Text.positionAt_inj hj hk heq]

/-- Whatever the path and the names, an identifier tells the line and the column that it was made
from. Whatever the names looked for, and whatever the tree over the text as long as its spans are
well formed: the walk has stories, no two of them have the same position, and no two of them have
the same identifier in a file at whatever path. This holds for character offsets, and for the byte
offsets of a text without surrogates. -/
theorem storyIds_distinct :
    (∀ (path kind story kind' story' : Text) (line column line' column' : Int),
        storyId path line column kind story = storyId path line' column' kind' story' →
          line = line' ∧ column = column') ∧
      ∀ {N : Type} (view : View N) (pattern : Pattern) (source : Text) (root : N),
        (view.Nested source.IsOffset root →
          ∃ stories, view.storiesByOffset pattern source root = .ok stories ∧
            Story.Distinct stories) ∧
        (source.isScalar = true → view.Nested source.IsByteOffset root →
          ∃ stories, view.storiesByPoint pattern source.utf8 root = .ok stories ∧
            Story.Distinct stories) :=
  ⟨fun _ _ _ _ _ _ _ _ _ h => storyId_inj h, fun _ pattern _ _ =>
    ⟨fun h => h.distinct_storiesByOffset pattern,
      fun hscalar h => h.distinct_storiesByPoint pattern hscalar⟩⟩

end View

namespace NestedChains

/-- The stories of nested chains are told apart, whichever kind of offsets the spans are. -/
theorem stories_distinct :
    storyId "a@L3:C1.js" 2 7 "A" "x  y" = storyId "a@L3:C1.js" 2 7 "A" "x y" ∧
      ((2 : Int) = 2 ∧ (7 : Int) = 7) ∧
      source.isScalar = true ∧ Tree.view.Nested source.IsOffset tree ∧
      Tree.view.Nested source.IsByteOffset tree ∧
      (∃ stories, Tree.view.storiesByOffset .standard source tree = .ok stories ∧
        Story.Distinct stories) ∧
      ∃ stories, Tree.view.storiesByPoint .standard source.utf8 tree = .ok stories ∧
        Story.Distinct stories := by
  have hequal : storyId "a@L3:C1.js" 2 7 "A" "x  y" = storyId "a@L3:C1.js" 2 7 "A" "x y" := by
    decide
  have hscalar : source.isScalar = true := by decide
  have hordered : Tree.view.Ordered tree := by decide +kernel
  have hlength : source.length = 53 := by decide
  have hspan : Tree.view.span tree = ⟨0, 53⟩ := by decide
  have hlengths : ∀ k ≤ 53, (Text.utf8 (source.take k)).length = k := by decide +kernel
  have hoffsets : Tree.view.Nested source.IsOffset tree := by
    refine hordered.nested fun offset hstart hstop => ?_
    rw [hspan] at hstart hstop
    exact ⟨hstart, by rw [hlength]; exact hstop⟩
  have hbytes : Tree.view.Nested source.IsByteOffset tree := by
    refine hordered.nested fun offset hstart hstop => ?_
    rw [hspan] at hstart hstop
    obtain ⟨k, rfl⟩ := Int.eq_ofNat_of_zero_le hstart
    have hk : k ≤ 53 := Int.ofNat_le.mp hstop
    exact ⟨k, hlength ▸ hk, by rw [hlengths k hk]⟩
  obtain ⟨hids, hstories⟩ := View.storyIds_distinct
  obtain ⟨hchars, hpoints⟩ := hstories Tree.view .standard source tree
  exact ⟨hequal, hids _ _ _ _ _ _ _ _ _ hequal, hscalar, hoffsets, hbytes, hchars hoffsets,
    hpoints hscalar hbytes⟩

end NestedChains

end StoryCatalog

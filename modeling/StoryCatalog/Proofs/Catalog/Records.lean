import StoryCatalog.Catalog.Generate
import StoryCatalog.Proofs.Chain.Stories
import StoryCatalog.Proofs.Contract.Validation

/-!
# Every record of a catalog is sound

Of a reader it is relied on that the spans it reports end right behind the name of the story method
(`ReadingStyle.EndsInMethod`). Then the column of a story, which is moved back by the length of that
name, is still counted from one (`one_le_position`), and so every record that a source contributes
is sound (`Source.sound_contribution`).
-/

namespace StoryCatalog

open Chain

/-- Every story of a walk ends on a line that has the name of the story method right before the end.
An offset of a text is known by the number of characters before it. -/
def View.EndsInMethod {N : Type} (view : View N) (pattern : Pattern) (source : Text)
    (offset : Nat → Int) (root : N) : Prop :=
  ∀ found ∈ (view.walk pattern root).found, ∀ declared ∈ found.stories,
    ∃ k ≤ source.length, declared.span.stop = offset k ∧
      pattern.method <:+ Text.lastLine (source.take k)

/-- What is relied on of the reader of a style. -/
def ReadingStyle.EndsInMethod (style : ReadingStyle) (source : String) : Prop :=
  match style.backend with
  | .concrete =>
      (Cst.view (Text.utf8 source)).EndsInMethod style.pattern source
        (fun k => (Text.utf8 ((source : Text).take k)).length) (Script.Concrete.read source)
  | .strict =>
      ∀ root, Script.Strict.readModule source = .ok root →
        Estree.view.EndsInMethod style.pattern source (fun k => k) root

/-! ## Positions -/

/-- A story comes from a span of a chain. -/
theorem exists_of_mem_flatten {N : Type} {pattern : Pattern}
    {resolve : Int → Except LocationError Position} {found : List (Match N)} {stories : List Story}
    (h : flatten pattern resolve (found.map Match.declaration) = .ok stories) {story : Story}
    (hstory : story ∈ stories) :
    ∃ chain ∈ found, ∃ declared ∈ chain.stories,
      Story.ofSpan pattern resolve chain.kind.name declared = .ok story := by
  rw [flatten_eq_mapM] at h
  obtain ⟨⟨chain, declared⟩, hmem, hspan⟩ :=
    exists_of_forall₂_of_mem (forall₂_of_mapM_eq_ok h) hstory
  obtain ⟨hchain, hdeclared⟩ := mem_declared.mp hmem
  exact ⟨chain, hchain, declared, hdeclared, hspan⟩

/-- A story whose span ends in the name of its method has a position counted from one. -/
theorem one_le_position {pattern : Pattern} {resolve : Int → Except LocationError Position}
    {kind : Text} {declared : NamedSpan} {story : Story}
    (h : Story.ofSpan pattern resolve kind declared = .ok story) {source : Text} {k : Nat}
    (hresolve : resolve declared.span.stop = .ok (source.positionAt k))
    (hend : pattern.method <:+ Text.lastLine (source.take k)) :
    1 ≤ story.position.line ∧ 1 ≤ story.position.column := by
  obtain ⟨position, hposition, hstory⟩ := exists_of_bind_eq_ok h
  rw [hresolve] at hposition
  cases hposition
  cases hstory
  have hlength := hend.length_le
  simp only [Text.positionAt]
  omega

theorem eq_ok_of_ofLocation {α : Type} {x : Except LocationError α} {value : α}
    (h : ExtractError.ofLocation x = .ok value) : x = .ok value := by
  cases x with
  | error e => cases h
  | ok found =>
      cases h
      rfl

/-- The stories of a concrete tree have positions counted from one. -/
theorem Cst.one_le_position {pattern : Pattern} {source : Text} (hscalar : source.isScalar = true)
    {root : Cst}
    (hend : (Cst.view source.utf8).EndsInMethod pattern source
      (fun k => (Text.utf8 (source.take k)).length) root)
    {stories : List Story} (h : root.stories pattern source = .ok stories) {story : Story}
    (hstory : story ∈ stories) : 1 ≤ story.position.line ∧ 1 ≤ story.position.column := by
  unfold Cst.stories at h
  dsimp only at h
  split at h
  · cases h
  · obtain ⟨found, hfound, declared, hdeclared, hspan⟩ :=
      exists_of_mem_flatten (eq_ok_of_ofLocation h) hstory
    obtain ⟨k, _, hstop, hmethod⟩ := hend found hfound declared hdeclared
    refine StoryCatalog.one_le_position hspan ?_ hmethod
    rw [View.resolve_pointTable hfound hdeclared, hstop, bytePosition_utf8 hscalar]

/-- The stories of an attribute tree have positions counted from one. -/
theorem Estree.one_le_position {pattern : Pattern} {source : Text} {root : Estree}
    (hend : Estree.view.EndsInMethod pattern source (fun k => k) root) {stories : List Story}
    (h : root.stories pattern source = .ok stories) {story : Story} (hstory : story ∈ stories) :
    1 ≤ story.position.line ∧ 1 ≤ story.position.column := by
  unfold Estree.stories at h
  split at h
  · cases h
  · obtain ⟨found, hfound, declared, hdeclared, hspan⟩ :=
      exists_of_mem_flatten (eq_ok_of_ofLocation h) hstory
    obtain ⟨k, hbound, hstop, hmethod⟩ := hend found hfound declared hdeclared
    refine StoryCatalog.one_le_position hspan ?_ hmethod
    rw [hstop]
    exact LineIndex.resolve_ofText source hbound

/-- The stories of a source text have positions counted from one, whichever reader read it. -/
theorem ReadingStyle.one_le_position {style : ReadingStyle} {source : String}
    (hend : style.EndsInMethod source) {extraction : Extraction}
    (h : StoryCatalog.extract style.backend style.pattern source = .ok extraction) {story : Story}
    (hstory : story ∈ extraction.stories) :
    1 ≤ story.position.line ∧ 1 ≤ story.position.column := by
  obtain ⟨backend, pattern⟩ := style
  cases backend with
  | concrete =>
      obtain ⟨stories, hstories, hresult⟩ := exists_of_bind_eq_ok h
      cases hresult
      exact Cst.one_le_position (Text.isScalar_ofString source) hend hstories hstory
  | strict =>
      rw [StoryCatalog.extract] at h
      split at h
      · cases h
      · cases h
      · rename_i root hroot
        obtain ⟨stories, hstories, hresult⟩ := exists_of_bind_eq_ok h
        cases hresult
        exact Estree.one_le_position (hend root hroot) hstories hstory

/-! ## Records -/

theorem StoryRecord.sound_ofStory (path : Text) {story : Story}
    (h : 1 ≤ story.position.line ∧ 1 ≤ story.position.column) : (ofStory path story).Sound where
  version := rfl
  line := h.1
  column := h.2
  storyId := rfl

/-- Whatever text a source is read as, the reader reports spans that end in the method's name. -/
def Source.EndsInMethod (style : ReadingStyle) (source : Source) : Prop :=
  ∀ t, readText source.content = .ok t → style.EndsInMethod t.toStringLossy

/-- The records that a source contributes are sound. -/
theorem Source.sound_contribution [SourceAccess] {style : ReadingStyle} {source : Source}
    (hend : source.EndsInMethod style) {log : Log} {part : Contribution}
    (h : source.contribution style = (log, .ok part)) : ∀ r ∈ part.records, r.Sound := by
  unfold Source.contribution at h
  dsimp only at h
  split at h
  · cases h
    simp [Contribution.records]
  · rename_i t ht
    split at h
    · cases h
      simp [Contribution.records]
    · cases h
    · rename_i extraction hextraction
      cases h
      intro r hr
      obtain ⟨story, hstory, rfl⟩ := List.mem_map.mp hr
      exact StoryRecord.sound_ofStory source.path
        (ReadingStyle.one_le_position (hend t (Source.read_eq_ok_iff.mp ht).2) hextraction hstory)

/-- When contributions are gathered without an error, there is one from each source. -/
theorem forall₂_of_contributions_eq_ok [SourceAccess] {style : ReadingStyle}
    {sources : List Source} {log : Log} {parts : List Contribution}
    (h : contributions style sources = (log, .ok parts)) :
    List.Forall₂ (fun source part => (source.contribution style).2 = .ok part) sources parts := by
  induction sources generalizing log parts with
  | nil =>
      cases h
      exact .nil
  | cons source rest ih =>
      rw [contributions] at h
      split at h
      · cases h
      · rename_i first hfirst
        obtain ⟨_, hparts⟩ := Prod.mk.inj h
        obtain ⟨others, hothers, rfl⟩ : ∃ others,
            (contributions style rest).2 = .ok others ∧ first :: others = parts := by
          cases hrest : (contributions style rest).2 with
          | error e =>
              rw [hrest] at hparts
              cases hparts
          | ok others =>
              rw [hrest] at hparts
              exact ⟨others, rfl, Except.ok.inj hparts⟩
        exact .cons (by rw [hfirst]) (ih (Prod.ext rfl hothers))

/-- The records of all contributions are sound. -/
theorem sound_contributions [SourceAccess] {style : ReadingStyle} {sources : List Source}
    (hend : ∀ source ∈ sources, source.EndsInMethod style) {log : Log} {parts : List Contribution}
    (h : contributions style sources = (log, .ok parts)) :
    ∀ part ∈ parts, ∀ r ∈ part.records, r.Sound := by
  have hparts := forall₂_imp_of_mem (forall₂_of_contributions_eq_ok h)
    fun source hsource part _ hpart =>
      Source.sound_contribution (hend source hsource) (Prod.ext rfl hpart)
  intro part hpart
  obtain ⟨_, _, hsound⟩ := exists_of_forall₂_of_mem hparts.flip hpart
  exact hsound

end StoryCatalog

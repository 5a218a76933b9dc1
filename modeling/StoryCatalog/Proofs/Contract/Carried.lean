import StoryCatalog.Catalog.Basic
import StoryCatalog.Proofs.Contract.Counts
import StoryCatalog.Proofs.Json.Characters
import StoryCatalog.Proofs.Json.Writable

/-!
# Which catalogs can be written

The artifacts carry texts without surrogates and numbers of a word. The names of a story come out of
string literals, in which an escape may stand for a surrogate, so not every catalog can be written.
One record can be written when all its fields can be carried (`StoryRecord.canWrite_iff_portable`).
The records can be written exactly when each of them can be carried (`recordsText_snd_eq_none_iff`),
and both files exactly when the whole catalog can be (`Catalog.carried_iff`).
-/

namespace StoryCatalog

open Json

/-! ## Texts without surrogates -/

namespace Text

@[simp]
theorem isScalar_append {t u : Text} :
    (t ++ u).isScalar = true ↔ t.isScalar = true ∧ u.isScalar = true := by
  simp [isScalar]

theorem isScalar_ofInt (n : Int) : (ofInt n).isScalar = true := by
  refine List.all_eq_true.mpr fun c hc => ?_
  have hadmits : Layout.compact.Admits c := admits_of_mem_ofInt hc
  simp [hadmits.1]

/-- A run of blanks is replaced by a space and nothing else is new. -/
theorem mem_of_mem_collapse {inRun : Bool} {t : Text} {c : CodePoint} (h : c ∈ collapse inRun t) :
    c ∈ t ∨ c = CodePoint.space := by
  induction t generalizing inRun with
  | nil => cases h
  | cons first rest ih =>
      unfold collapse at h
      split at h
      · split at h
        · exact (ih h).imp_left (List.mem_cons_of_mem first)
        · rcases List.mem_cons.mp h with rfl | h
          · exact .inr rfl
          · exact (ih h).imp_left (List.mem_cons_of_mem first)
      · rcases List.mem_cons.mp h with rfl | h
        · exact .inl List.mem_cons_self
        · exact (ih h).imp_left (List.mem_cons_of_mem first)

theorem mem_of_mem_trim {t : Text} {c : CodePoint} (h : c ∈ t.trim) : c ∈ t := by
  rw [trim, trimRight, List.mem_reverse] at h
  have hfront := (List.dropWhile_suffix _).mem h
  rw [List.mem_reverse] at hfront
  exact (List.dropWhile_suffix _).mem hfront

/-- A name without surrogates has none after its blanks are merged. -/
theorem isScalar_normalize {t : Text} (h : t.isScalar = true) : t.normalize.isScalar = true := by
  refine List.all_eq_true.mpr fun c hc => ?_
  rcases mem_of_mem_collapse hc with hmem | rfl
  · exact List.all_eq_true.mp h c (mem_of_mem_trim hmem)
  · decide

end Text

/-- The id of a story holds a surrogate only where its path, kind or story does. -/
theorem isScalar_storyId {path kind story : Text} (line column : Int) (hpath : path.isScalar = true)
    (hkind : kind.isScalar = true) (hstory : story.isScalar = true) :
    (storyId path line column kind story).isScalar = true := by
  simp only [storyId, Text.isScalar_append, Text.isScalar_ofString, Text.isScalar_ofInt, hpath,
    Text.isScalar_normalize hkind, Text.isScalar_normalize hstory, and_self]

/-! ## The entries of the artifacts -/

/-- The texts and numbers of a record can be carried. -/
structure StoryRecord.Carried (r : StoryRecord) : Prop where
  path : r.path.isScalar = true
  kind : r.kind.isScalar = true
  story : r.story.isScalar = true
  line : fitsWord r.line = true
  column : fitsWord r.column = true

/-- All fields of a record can be carried, whether or not its identifier and its version are those
that the others ask for. -/
structure StoryRecord.Portable (r : StoryRecord) : Prop extends r.Carried where
  storyId : r.storyId.isScalar = true
  schemaVersion : fitsWord r.schemaVersion = true

/-- The texts and numbers of a skipped file can be carried. -/
structure SkippedFile.Carried (f : SkippedFile) : Prop where
  path : f.path.isScalar = true
  message : f.message.isScalar = true
  line : ∀ n ∈ f.line, fitsWord n = true
  column : ∀ n ∈ f.column, fitsWord n = true

variable {layout : Layout} {depth : Nat}

/-- The version that every artifact carries fits. -/
theorem fitsWord_schemaVersion : fitsWord schemaVersion = true := by
  decide

/-- A record can be written when all its fields can be carried. -/
theorem StoryRecord.canWrite_iff_portable (hdepth : depth < deepest) (r : StoryRecord) :
    CanWrite layout depth r.toDatum ↔ r.Portable := by
  rw [toDatum, canWrite_table_iff]
  simp only [List.forall_mem_cons, List.not_mem_nil, canWrite_integer_iff, canWrite_text_iff,
    Text.isScalar_ofString, true_and, hdepth]
  constructor
  · rintro ⟨hversion, hid, hpath, hkind, hstory, hline, hcolumn, _⟩
    exact ⟨⟨hpath, hkind, hstory, hline, hcolumn⟩, hid, hversion⟩
  · intro h
    exact ⟨h.schemaVersion, h.storyId, h.path, h.kind, h.story, h.line, h.column, by simp⟩

/-- The identifier of the record of a story is made of the other fields, and its version fits. -/
theorem StoryRecord.portable_ofStory_iff (path : Text) (story : Story) :
    (ofStory path story).Portable ↔ (ofStory path story).Carried := by
  refine ⟨fun h => h.toCarried, fun h => ⟨h, ?_, fitsWord_schemaVersion⟩⟩
  exact isScalar_storyId _ _ h.path h.kind h.story

/-- The record of a story can be written when its texts and numbers can be carried. -/
theorem StoryRecord.canWrite_toDatum_iff (hdepth : depth < deepest) (path : Text) (story : Story) :
    CanWrite layout depth (ofStory path story).toDatum ↔ (ofStory path story).Carried :=
  (canWrite_iff_portable hdepth _).trans (portable_ofStory_iff path story)

/-- A line or column can be written when it is absent or fits into a word. -/
theorem SkippedFile.canWrite_numberDatum_iff {number : Option Int} :
    CanWrite layout depth (numberDatum number) ↔ ∀ n ∈ number, fitsWord n = true := by
  cases number with
  | none => simp [numberDatum]
  | some n => simp [numberDatum]

/-- A skipped file can be written exactly when it is carried. -/
theorem SkippedFile.canWrite_toDatum_iff {f : SkippedFile} (hdepth : depth < deepest) :
    CanWrite layout depth f.toDatum ↔ f.Carried := by
  rw [toDatum, canWrite_table_iff]
  simp only [List.forall_mem_cons, List.not_mem_nil, canWrite_text_iff, canWrite_numberDatum_iff,
    Text.isScalar_ofString, true_and, hdepth]
  constructor
  · rintro ⟨hpath, hline, hcolumn, hmessage, _⟩
    exact ⟨hpath, hmessage, hline, hcolumn⟩
  · intro h
    exact ⟨h.path, h.line, h.column, h.message, by simp⟩

/-- Counts can be written exactly when their names hold no surrogate and they fit. -/
theorem Summary.canWrite_countsDatum_iff {counts : List (Text × Int)} (hdepth : depth < deepest) :
    CanWrite layout depth (countsDatum counts) ↔
      ∀ entry ∈ counts, entry.1.isScalar = true ∧ fitsWord entry.2 = true := by
  rw [countsDatum, canWrite_table_iff, List.forall_mem_map]
  simp only [canWrite_integer_iff, hdepth, true_and]

/-! ## Catalogs -/

namespace Catalog

/-- All texts and numbers of a catalog can be carried. -/
structure Carried (catalog : Catalog) : Prop where
  records : ∀ r ∈ catalog.records, r.Carried
  skipped : ∀ f ∈ catalog.summary.skipped, f.Carried
  fileCount : fitsWord catalog.summary.fileCount = true
  storyCount : fitsWord catalog.summary.storyCount = true

/-- Every record that was contributed is the record of a story. -/
def OfStories (parts : List Contribution) : Prop :=
  ∀ r ∈ (ofContributions parts).records, ∃ path story, r = .ofStory path story

variable {parts : List Contribution}

/-- The records are written without a fault exactly when each of them is carried. -/
theorem recordsText_snd_eq_none_iff (h : OfStories parts) :
    (ofContributions parts).recordsText.2 = none ↔
      ∀ r ∈ (ofContributions parts).records, r.Carried := by
  rw [recordsText, writeLines_eq_none_iff, List.forall_mem_map]
  refine forall₂_congr fun r hr => ?_
  obtain ⟨path, story, rfl⟩ := h r hr
  exact StoryRecord.canWrite_toDatum_iff (by decide) path story

/-- The kinds are those of the records, and none occurs more often than there are records. -/
theorem carried_kinds (hrecords : ∀ r ∈ (ofContributions parts).records, r.Carried)
    (hcount : fitsWord (ofContributions parts).summary.storyCount = true) :
    ∀ entry ∈ (ofContributions parts).summary.kinds,
      entry.1.isScalar = true ∧ fitsWord entry.2 = true := by
  rintro ⟨kind, count⟩ hentry
  obtain ⟨hkind, rfl⟩ := mem_kindCounts.mp hentry
  obtain ⟨r, hr, rfl⟩ := List.mem_map.mp hkind
  refine ⟨(hrecords r hr).kind, ?_⟩
  -- a kind is counted at most once for each record
  have hle : ((parts.flatMap Contribution.records).map StoryRecord.kind).count r.kind ≤
      (parts.flatMap Contribution.records).length := by
    rw [← List.length_map StoryRecord.kind]
    exact List.count_le_length
  have hlength : (ofContributions parts).summary.storyCount =
      (parts.flatMap Contribution.records).length := rfl
  simp only [fitsWord, Bool.and_eq_true, decide_eq_true_eq, hlength] at hcount ⊢
  omega

/-- The summary of carried records can be written when the rest of the catalog can be carried. -/
theorem exists_summaryText_iff (hrecords : ∀ r ∈ (ofContributions parts).records, r.Carried) :
    (∃ u, (ofContributions parts).summaryText = .ok u) ↔ (ofContributions parts).Carried := by
  have hwrite : (∃ u, (ofContributions parts).summaryText = .ok u) ↔
      CanWrite .indented 0 (ofContributions parts).summary.toDatum := Iff.rfl
  rw [hwrite, Summary.toDatum, canWrite_table_iff]
  have hskipped : CanWrite .indented 1
      (.list ((ofContributions parts).summary.skipped.map SkippedFile.toDatum)) ↔
        ∀ f ∈ (ofContributions parts).summary.skipped, f.Carried := by
    rw [canWrite_list_iff, List.forall_mem_map]
    exact ⟨fun h f hf => (SkippedFile.canWrite_toDatum_iff (by decide)).mp (h.2 f hf),
      fun h => ⟨by decide, fun f hf => (SkippedFile.canWrite_toDatum_iff (by decide)).mpr (h f hf)⟩⟩
  have hkinds : CanWrite .indented 1 (Summary.countsDatum (ofContributions parts).summary.kinds) ↔
      ∀ entry ∈ (ofContributions parts).summary.kinds,
        entry.1.isScalar = true ∧ fitsWord entry.2 = true :=
    Summary.canWrite_countsDatum_iff (by decide)
  simp only [List.forall_mem_cons, List.not_mem_nil, canWrite_integer_iff, Text.isScalar_ofString,
    true_and, zero_add, hskipped, hkinds]
  constructor
  · rintro ⟨_, _, hfiles, hstories, _, hskipped, _⟩
    exact ⟨hrecords, hskipped, hfiles, hstories⟩
  · intro h
    exact ⟨by decide, fitsWord_schemaVersion, h.fileCount, h.storyCount,
      carried_kinds h.records h.storyCount, h.skipped, by simp⟩

/-- Both files of a catalog can be written exactly when the catalog can be carried. -/
theorem carried_iff (h : OfStories parts) :
    (ofContributions parts).Carried ↔
      (ofContributions parts).recordsText.2 = none ∧
        ∃ u, (ofContributions parts).summaryText = .ok u := by
  rw [recordsText_snd_eq_none_iff h]
  constructor
  · intro hcarried
    exact ⟨hcarried.records, (exists_summaryText_iff hcarried.records).mpr hcarried⟩
  · rintro ⟨hrecords, hsummary⟩
    exact (exists_summaryText_iff hrecords).mp hsummary

end Catalog

end StoryCatalog

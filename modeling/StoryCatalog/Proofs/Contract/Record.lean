import StoryCatalog.Contract.Record
import StoryCatalog.Proofs.Json.RoundTrip

/-!
# Records and summaries are read back by their schemas

A record, a skipped file and a summary are plain data, and their schemas read them back from the
canonical form in which they are written (`StoryRecord.ofDatum_canonical`). Only the counts of a
summary come back in ascending order of their names (`Summary.ofDatum_canonical`).
-/

namespace StoryCatalog

open Schema

namespace Datum

/-- Where no name occurs twice, looking a name up finds exactly the values paired with it. -/
theorem get?_eq_some_iff {entries : List (Text × Datum)} (h : (entries.map Prod.fst).Nodup)
    {name : Text} {value : Datum} : get? name entries = some value ↔ (name, value) ∈ entries := by
  induction entries with
  | nil => simp [get?]
  | cons entry rest ih =>
      obtain ⟨key, first⟩ := entry
      rw [List.map_cons, List.nodup_cons] at h
      rw [get?]
      split
      · rename_i hkey
        rw [beq_iff_eq] at hkey
        subst hkey
        have hnot : (key, value) ∉ rest := by
          intro hmem
          exact h.1 (List.mem_map.mpr ⟨_, hmem, rfl⟩)
        simp [hnot, eq_comm]
      · rename_i hkey
        rw [beq_iff_eq] at hkey
        rw [ih h.2, List.mem_cons, Prod.mk.injEq]
        simp [Ne.symm hkey]

/-- The canonical form of a table has under every name the canonical form of what the table has
there. -/
theorem get?_canonical {entries : List (Text × Datum)} (h : (entries.map Prod.fst).Nodup)
    {name : Text} {value : Datum} (hget : get? name entries = some value) :
    get? name (Json.sortByName (canonical.canonicalEntries entries)) = some value.canonical := by
  have hperm := Json.sortByName_perm (canonical.canonicalEntries entries)
  have hnames : (canonical.canonicalEntries entries).map Prod.fst = entries.map Prod.fst := by
    rw [canonicalEntries_eq, List.map_map]
    rfl
  have hnodup : ((Json.sortByName (canonical.canonicalEntries entries)).map Prod.fst).Nodup := by
    rw [(hperm.map Prod.fst).nodup_iff, hnames]
    exact h
  rw [get?_eq_some_iff hnodup, hperm.mem_iff, canonicalEntries_eq]
  exact List.mem_map_of_mem (f := fun entry : Text × Datum => (entry.1, entry.2.canonical))
    ((get?_eq_some_iff h).mp hget)

end Datum

namespace Schema

variable {α : Type} {entries : List (Text × Datum)} {value : Datum} {result : α}

/-- A field that a table has is found in the canonical form of the table. -/
theorem required_canonical (name : Text) (check : Datum → Checked α)
    (h : (entries.map Prod.fst).Nodup) (hget : Datum.get? name entries = some value)
    (hcheck : check value.canonical = .ok result) :
    required (Json.sortByName (Datum.canonical.canonicalEntries entries)) name check =
      .ok result := by
  rw [required, Datum.get?_canonical h hget]
  simp only [hcheck, Checked.under]

/-- An optional field is read from the table with its names sorted as from the table itself. -/
theorem optional_canonical (name : Text) (check : Datum → Checked α) {default : α}
    (h : (entries.map Prod.fst).Nodup) (hget : Datum.get? name entries = some value)
    (hcheck : check value.canonical = .ok result) :
    optional (Json.sortByName (Datum.canonical.canonicalEntries entries)) name default check =
      .ok result := by
  rw [optional, Datum.get?_canonical h hget]
  simp only [hcheck, Checked.under]

end Schema

namespace StoryRecord

/-- The entries of a record. -/
def fields (r : StoryRecord) : List (Text × Datum) :=
  [("schema_version", .integer r.schemaVersion), ("story_id", .text r.storyId),
    ("path", .text r.path), ("kind", .text r.kind), ("story", .text r.story),
    ("line", .integer r.line), ("column", .integer r.column)]

theorem nodup_fields (r : StoryRecord) : (r.fields.map Prod.fst).Nodup := by
  simp only [fields, List.map_cons, List.map_nil]
  decide

theorem plain_toDatum (r : StoryRecord) : r.toDatum.Plain := by
  refine .table r.nodup_fields ?_
  intro entry h
  simp only [List.mem_cons, List.not_mem_nil, or_false] at h
  rcases h with rfl | rfl | rfl | rfl | rfl | rfl | rfl
  · exact .integer _
  · exact .text _
  · exact .text _
  · exact .text _
  · exact .text _
  · exact .integer _
  · exact .integer _

/-- A record is read back as it was written. -/
theorem ofDatum_canonical (r : StoryRecord) : ofDatum r.toDatum.canonical = .ok r := by
  have h := r.nodup_fields
  have hform : r.toDatum.canonical =
      .table (Json.sortByName (Datum.canonical.canonicalEntries r.fields)) := rfl
  rw [hform, ofDatum, record, optional_canonical "schema_version" integer h rfl rfl,
    required_canonical "story_id" text h rfl rfl, required_canonical "path" text h rfl rfl,
    required_canonical "kind" text h rfl rfl, required_canonical "story" text h rfl rfl,
    required_canonical "line" integer h rfl rfl, required_canonical "column" integer h rfl rfl]
  rfl

end StoryRecord

namespace SkippedFile

/-- The entries of a skipped file. -/
def fields (f : SkippedFile) : List (Text × Datum) :=
  [("path", .text f.path), ("line", numberDatum f.line), ("column", numberDatum f.column),
    ("message", .text f.message)]

theorem nodup_fields (f : SkippedFile) : (f.fields.map Prod.fst).Nodup := by
  simp only [fields, List.map_cons, List.map_nil]
  decide

theorem plain_numberDatum (number : Option Int) : (numberDatum number).Plain := by
  cases number with
  | none => exact .null
  | some n => exact .integer n

/-- A line or column that may be absent reads back from the datum it is written as. -/
theorem optionalInteger_canonical (number : Option Int) :
    optionalInteger (numberDatum number).canonical = .ok number := by
  cases number with
  | none => rfl
  | some n => rfl

theorem plain_toDatum (f : SkippedFile) : f.toDatum.Plain := by
  refine .table f.nodup_fields ?_
  intro entry h
  simp only [List.mem_cons, List.not_mem_nil, or_false] at h
  rcases h with rfl | rfl | rfl | rfl
  · exact .text _
  · exact plain_numberDatum _
  · exact plain_numberDatum _
  · exact .text _

/-- A skipped file is read back as it was written. -/
theorem ofDatum_canonical (f : SkippedFile) : ofDatum f.toDatum.canonical = .ok f := by
  have h := f.nodup_fields
  have hform : f.toDatum.canonical =
      .table (Json.sortByName (Datum.canonical.canonicalEntries f.fields)) := rfl
  rw [hform, ofDatum, record, required_canonical "path" text h rfl rfl,
    optional_canonical "line" optionalInteger h rfl (optionalInteger_canonical f.line),
    optional_canonical "column" optionalInteger h rfl (optionalInteger_canonical f.column),
    required_canonical "message" text h rfl rfl]
  rfl

end SkippedFile

namespace Schema.Checked

/-- A list is read back when each of its items is. -/
theorem items_map {α : Type} {check : Datum → Checked α} {f : α → Datum}
    (h : ∀ value, check (f value) = .ok value) (index : Nat) (values : List α) :
    items check index (values.map f) = .ok values := by
  induction values generalizing index with
  | nil => rfl
  | cons value rest ih =>
      rw [List.map_cons, items, h value, ih]
      rfl

/-- A table is read back when each of its entries is. -/
theorem entries_map {α : Type} {check : Datum → Checked α} {f : α → Datum}
    (h : ∀ value, check (f value) = .ok value) (values : List (Text × α)) :
    entries check (values.map fun entry => (entry.1, f entry.2)) = .ok values := by
  induction values with
  | nil => rfl
  | cons value rest ih =>
      rw [List.map_cons, entries, h value.2, ih]
      rfl

end Schema.Checked

namespace Summary

/-- The entries of a summary. -/
def fields (s : Summary) : List (Text × Datum) :=
  [("schema_version", .integer s.schemaVersion), ("file_count", .integer s.fileCount),
    ("story_count", .integer s.storyCount), ("kinds", countsDatum s.kinds),
    ("parse_errors", .list (s.skipped.map SkippedFile.toDatum))]

theorem nodup_fields (s : Summary) : (s.fields.map Prod.fst).Nodup := by
  simp only [fields, List.map_cons, List.map_nil]
  decide

/-- Counts under distinct names are a plain table. -/
theorem plain_countsDatum {counts : List (Text × Int)} (h : (counts.map Prod.fst).Nodup) :
    (countsDatum counts).Plain := by
  refine .table ?_ ?_
  · rw [List.map_map]
    exact h
  · intro entry hentry
    obtain ⟨count, _, rfl⟩ := List.mem_map.mp hentry
    exact .integer _

theorem plain_toDatum {s : Summary} (h : (s.kinds.map Prod.fst).Nodup) : s.toDatum.Plain := by
  refine .table s.nodup_fields ?_
  intro entry hentry
  simp only [List.mem_cons, List.not_mem_nil, or_false] at hentry
  rcases hentry with rfl | rfl | rfl | rfl | rfl
  · exact .integer _
  · exact .integer _
  · exact .integer _
  · exact plain_countsDatum h
  · refine .list ?_
    intro item hitem
    obtain ⟨file, _, rfl⟩ := List.mem_map.mp hitem
    exact file.plain_toDatum

/-- Counts are read back in ascending order of their names. -/
theorem table_canonical (counts : List (Text × Int)) :
    table integer (countsDatum counts).canonical = .ok (Json.sortByName counts) := by
  have hform : (countsDatum counts).canonical =
      .table ((Json.sortByName counts).map fun entry => (entry.1, .integer entry.2)) := by
    rw [countsDatum, Datum.canonical, Datum.canonicalEntries_eq, List.map_map,
      ← Json.sortByName_map fun entry => Datum.integer entry.2]
    rfl
  rw [hform, table]
  exact Checked.entries_map (f := Datum.integer) (fun _ => rfl) _

/-- The skipped files of a summary read back from the list they are written as. -/
theorem list_canonical (skipped : List SkippedFile) :
    list SkippedFile.ofDatum (Datum.list (skipped.map SkippedFile.toDatum)).canonical =
      .ok skipped := by
  rw [Datum.canonical, Datum.canonicalItems_eq, List.map_map, list]
  exact Checked.items_map SkippedFile.ofDatum_canonical 0 skipped

/-- A summary is read back as it was written, with its counts in ascending order. -/
theorem ofDatum_canonical (s : Summary) :
    ofDatum s.toDatum.canonical = .ok { s with kinds := Json.sortByName s.kinds } := by
  have h := s.nodup_fields
  have hform : s.toDatum.canonical =
      .table (Json.sortByName (Datum.canonical.canonicalEntries s.fields)) := rfl
  rw [hform, ofDatum, record, optional_canonical "schema_version" integer h rfl rfl,
    required_canonical "file_count" integer h rfl rfl,
    required_canonical "story_count" integer h rfl rfl,
    optional_canonical "kinds" (table integer) h rfl (table_canonical s.kinds),
    optional_canonical "parse_errors" (list SkippedFile.ofDatum) h rfl (list_canonical s.skipped)]
  rfl

end Summary

end StoryCatalog

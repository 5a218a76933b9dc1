import StoryCatalog.Catalog.Generate
import StoryCatalog.Proofs.Contract.Carried
import StoryCatalog.Proofs.Contract.Consistency
import StoryCatalog.Proofs.Disk.Write

/-!
# Records are read back from their lines

A name may hold line ends of every kind, but none of them is left in the text of a record, and the
text of a record is no blank line. So the file with the records has exactly one line for each of
them, in their order, and each line is read as its record (`map_readLine_lines`). What the validator
then finds is about the version, the position or the identifier of a record, and never that a line
holds no JSON or no record (`Reading.step_canonical`, `readLines_canonical`). A file of records that
can be carried is written whole and gives all of them back, sound or not
(`writeRecords_givesBack`).
-/

namespace StoryCatalog

theorem Report.append_errors (r : Report) (first second : List Finding) :
    r ++ ⟨first, []⟩ ++ ⟨second, []⟩ = r ++ ⟨first ++ second, []⟩ := by
  show Report.append (Report.append r _) _ = Report.append r _
  simp [Report.append]

namespace Validation

/-! ## Findings -/

/-- The finding refuses its line, which holds no JSON or no record. -/
def Refuses (f : Finding) : Prop :=
  f.message = "Invalid JSON." ∨ ∃ issues, f.message = schemaMessage StoryRecord.model issues

/-- The finding is about the record on the line with this number: its version is another one, its
position is not counted from one, or its identifier is not the one that the other fields ask for. -/
def Concerns (path : Text) (number : Nat) (r : StoryRecord) (f : Finding) : Prop :=
  f ∈ (versionReport false recordsArtifact path (some number)
    (some (.different r.schemaVersion))).errors ∨ f ∈ (recordReport path number r).errors

/-- The messages that refuse a line start in one of two ways. -/
theorem Refuses.take_message {f : Finding} (h : Refuses f) :
    f.message.take 9 ∈ ([Text.ofString "Invalid J", Text.ofString "Schema va"] : List Text) := by
  rcases h with h | ⟨issues, h⟩
  · rw [h]
    decide
  · rw [h, schemaMessage, List.append_assoc, List.take_append_of_le_length (by decide)]
    decide

/-- A message starts with its fixed text, whatever is filled in behind it. -/
theorem take_message_of_mem_error {f : Finding} {artifact : String} {path front rest : Text}
    {line : Option Nat} (hfront : 9 ≤ front.length)
    (h : f ∈ (Report.error artifact path line (front ++ rest)).errors) :
    f.message.take 9 = front.take 9 := by
  rw [Report.error, List.mem_singleton] at h
  rw [h, List.take_append_of_le_length hfront]

/-- The messages about a record start in other ways. -/
theorem Concerns.take_message {path : Text} {number : Nat} {r : StoryRecord} {f : Finding}
    (h : Concerns path number r f) :
    f.message.take 9 ∈ ([Text.ofString "Schema ve", Text.ofString "Story pos",
      Text.ofString "story_id "] : List Text) := by
  rw [Concerns, recordReport, Report.errors_append, List.mem_append] at h
  rcases h with hversion | hposition | hidentifier
  · simp only [versionReport, List.append_assoc] at hversion
    rw [take_message_of_mem_error (by decide) hversion]
    decide
  · split at hposition
    · simp only [List.append_assoc] at hposition
      rw [take_message_of_mem_error (by decide) hposition]
      decide
    · cases hposition
  · split at hidentifier
    · simp only [List.append_assoc] at hidentifier
      rw [take_message_of_mem_error (by decide) hidentifier]
      decide
    · cases hidentifier

/-- A finding about a record does not refuse its line. -/
theorem Concerns.not_refuses {path : Text} {number : Nat} {r : StoryRecord} {f : Finding}
    (h : Concerns path number r f) : ¬Refuses f := by
  intro hrefuses
  have hrefused := hrefuses.take_message
  have hconcerned := h.take_message
  generalize f.message.take 9 = front at hrefused hconcerned
  simp only [List.mem_cons, List.not_mem_nil, or_false] at hrefused
  rcases hrefused with rfl | rfl
  · exact absurd hconcerned (by decide)
  · exact absurd hconcerned (by decide)

/-! ## Lines -/

/-- Every line of what was written is read as the record that it was written for. -/
theorem map_readLine_lines {records : List StoryRecord} {t : Text}
    (h : Json.writeLines (records.map StoryRecord.toDatum) = (t, none)) :
    (lines t.utf8).map readLine = records.map fun r => .record r.toDatum.canonical r := by
  induction records generalizing t with
  | nil =>
      cases h
      rfl
  | cons r rest ih =>
      obtain ⟨line, more, hlines, hline, hmore⟩ := lines_writeLines_cons h
      rw [hlines, List.map_cons, List.map_cons, hline, ih hmore]

/-! ## Reading -/

/-- The version of a record is stated where the record was written. -/
theorem eq_different_of_versionFault? {r : StoryRecord} {fault : VersionFault}
    (h : versionFault? r.toDatum.canonical r.schemaVersion = some fault) :
    fault = .different r.schemaVersion := by
  have hfault : versionFault? r.toDatum.canonical r.schemaVersion =
      if r.schemaVersion ≠ schemaVersion then some (.different r.schemaVersion) else none :=
    versionFault?_canonical r.nodup_fields rfl _
  rw [hfault] at h
  split at h
  · exact (Option.some.inj h).symm
  · cases h

/-- What a line adds to a reading when it is read as the record that it was written for: the record,
and errors that concern it. -/
theorem Reading.step_canonical (strict : Bool) (path : Text) (reading : Reading) (number : Nat)
    (r : StoryRecord) :
    ∃ findings reported,
      reading.step strict path number (.record r.toDatum.canonical r) =
        ⟨reading.report ++ ⟨findings, []⟩, reading.records ++ [r], reading.complete, reported⟩ ∧
      ∀ f ∈ findings, Concerns path number r f := by
  have hversion : ∀ fault, (∀ found ∈ fault, found = .different r.schemaVersion) →
      ∃ findings, versionReport strict recordsArtifact path (some number) fault = ⟨findings, []⟩ ∧
        ∀ f ∈ findings, Concerns path number r f := by
    intro fault hfault
    cases fault with
    | none => exact ⟨[], rfl, by simp⟩
    | some found =>
        rw [hfault found rfl]
        exact ⟨_, rfl, fun f hf => .inl hf⟩
  have hrecord : recordReport path number r = ⟨(recordReport path number r).errors, []⟩ := by
    rw [← warnings_recordReport path number r]
  rw [Reading.step, hrecord]
  -- the version is looked at only as long as none was reported
  obtain ⟨findings, hfindings, hconcern⟩ := hversion
    (if reading.versionReported then none else versionFault? r.toDatum.canonical r.schemaVersion)
    (by
      intro found hfound
      split at hfound
      · cases hfound
      · exact eq_different_of_versionFault? hfound)
  rw [hfindings, Report.append_errors]
  refine ⟨_, _, rfl, ?_⟩
  intro f hf
  rcases List.mem_append.mp hf with hf | hf
  · exact hconcern f hf
  · exact .inr hf

/-- Lines that are read as records add these records to a reading, in the order of the lines, and
errors that concern the records on their own lines. -/
theorem readLines_canonical (strict : Bool) (path : Text) {records : List StoryRecord}
    {rows : List Bytes}
    (h : rows.map readLine = records.map fun r => .record r.toDatum.canonical r)
    (reading : Reading) (number : Nat) :
    ∃ findings reported,
      readLines strict path reading number rows =
        ⟨reading.report ++ ⟨findings, []⟩, reading.records ++ records, reading.complete,
          reported⟩ ∧
      ∀ f ∈ findings, ∃ i r, records[i]? = some r ∧ Concerns path (number + i) r f := by
  induction records generalizing rows reading number with
  | nil =>
      obtain rfl := List.map_eq_nil_iff.mp h
      refine ⟨[], reading.versionReported, ?_, by simp⟩
      rw [readLines, List.append_nil]
      exact congrArg (Reading.mk · _ _ _) (Report.append_empty _).symm
  | cons r rest ih =>
      obtain ⟨row, rows, rfl⟩ := List.exists_cons_of_ne_nil (l := rows) (by rintro rfl; cases h)
      rw [List.map_cons, List.map_cons] at h
      obtain ⟨hrow, hrows⟩ := List.cons.inj h
      obtain ⟨first, reported, hstep, hfirst⟩ :=
        reading.step_canonical strict path number r
      obtain ⟨more, reported', hrun, hmore⟩ := ih hrows
        ⟨reading.report ++ ⟨first, []⟩, reading.records ++ [r], reading.complete, reported⟩
        (number + 1)
      refine ⟨first ++ more, reported', ?_, ?_⟩
      · rw [readLines, hrow, hstep, hrun, Report.append_errors]
        simp
      · intro f hf
        rcases List.mem_append.mp hf with hf | hf
        · exact ⟨0, r, rfl, hfirst f hf⟩
        · obtain ⟨i, found, hfound, hconcern⟩ := hmore f hf
          refine ⟨i + 1, found, hfound, ?_⟩
          rwa [Nat.add_right_comm] at hconcern

/-- The content of a file gives records back: it has one line for each of them, read as it, the
reading returns them all, and no line is refused. What else is found is about a record on its own
line. -/
structure GivesBack (strict : Bool) (path : Text) (content : Bytes) (written : List StoryRecord) :
    Prop where
  eachLine : (lines content).map readLine = written.map fun r => .record r.toDatum.canonical r
  records : (readRecords strict path content).records = written
  complete : (readRecords strict path content).complete = true
  warnings : (readRecords strict path content).report.warnings = []
  errors : ∀ f ∈ (readRecords strict path content).report.errors,
    ¬Refuses f ∧ ∃ i r, written[i]? = some r ∧ Concerns path (i + 1) r f

/-- What is written for records gives them back. -/
theorem givesBack_writeLines (strict : Bool) (path : Text) {records : List StoryRecord} {t : Text}
    (h : Json.writeLines (records.map StoryRecord.toDatum) = (t, none)) :
    GivesBack strict path t.utf8 records := by
  have hlines := map_readLine_lines h
  obtain ⟨findings, reported, hrun, hfindings⟩ :=
    readLines_canonical strict path hlines ⟨.empty, [], true, false⟩ 1
  have hread : readRecords strict path t.utf8 = ⟨⟨findings, []⟩, records, true, reported⟩ := hrun
  refine ⟨hlines, by rw [hread], by rw [hread], by rw [hread], ?_⟩
  rw [hread]
  intro f hf
  obtain ⟨i, r, hr, hconcern⟩ := hfindings f hf
  rw [Nat.add_comm] at hconcern
  exact ⟨hconcern.not_refuses, i, r, hr, hconcern⟩

end Validation

/-! ## The file with the records -/

/-- Records that can be carried are written whole. -/
theorem Catalog.recordsText_of_portable {catalog : Catalog}
    (h : ∀ r ∈ catalog.records, r.Portable) : ∃ t, catalog.recordsText = (t, none) := by
  have hwritten : catalog.recordsText.2 = none := by
    rw [recordsText, Json.writeLines_eq_none_iff, List.forall_mem_map]
    exact fun r hr => (r.canWrite_iff_portable (by decide)).mpr (h r hr)
  exact ⟨catalog.recordsText.1, by rw [← hwritten]⟩

/-- Whatever the records, as long as their texts hold no surrogates and their numbers fit into a
word: they are written to the file that a path leads to, and the file gives all of them back, in
their order and each from its own line. -/
theorem Disk.writeRecords_givesBack (disk : Disk) {path : Path} {place : Place}
    (hplace : disk.locate path = .ok place) (hdirectory : disk.get? place ≠ some .directory)
    {catalog : Catalog} (hrecords : ∀ r ∈ catalog.records, r.Portable) (strict : Bool) :
    ∃ changed content, disk.writeRecords catalog path = ⟨changed, [], .ok ()⟩ ∧
      changed.content? path = some content ∧
      Validation.GivesBack strict path.toText content catalog.records := by
  obtain ⟨t, ht⟩ := Catalog.recordsText_of_portable hrecords
  have hwrite : disk.write path t.utf8 = .ok (disk.put place (.file t.utf8)) := by
    rw [write, hplace]
    dsimp only [bind, Except.bind]
    split
    · rename_i hfound
      exact absurd hfound hdirectory
    · rfl
  refine ⟨_, t.utf8, ?_, content?_write_self hwrite, Validation.givesBack_writeLines strict _ ht⟩
  rw [writeRecords, ht]
  dsimp only
  rw [hwrite]
  rfl

/-! Names with line ends, quotes and a zero in them, on records that are not sound. -/

namespace HardNames

def path : Path := ⟨.top, ["repo", storiesFile]⟩

def disk : Disk where
  entries := [(["repo"], .directory)]
  distinct := by decide

def catalog : Catalog :=
  .ofContributions
    [.stories
      [⟨1, "first", "a\n.js", "K\r\n", "\u0085 and \u2028", 1, 5⟩,
        ⟨2, "", "\"b\\\".js", "\r", "\x00", 0, 0xFFFFFFFFFFFFFFFF⟩]]

theorem givesBack_catalog : (∀ r ∈ catalog.records, r.Portable) ∧
    ∃ changed content, disk.writeRecords catalog path = ⟨changed, [], .ok ()⟩ ∧
      changed.content? path = some content ∧
      Validation.GivesBack true path.toText content catalog.records := by
  have hrecords : ∀ r ∈ catalog.records, r.Portable := by
    intro r hr
    simp only [catalog, Catalog.ofContributions, List.flatMap_cons, List.flatMap_nil,
      Contribution.records, List.append_nil, List.mem_cons, List.not_mem_nil, or_false] at hr
    rcases hr with rfl | rfl
    · exact ⟨⟨by decide, by decide, by decide, by decide, by decide⟩, by decide, by decide⟩
    · exact ⟨⟨by decide, by decide, by decide, by decide, by decide⟩, by decide, by decide⟩
  have hplace : disk.locate path = .ok path.names := rfl
  exact ⟨hrecords, disk.writeRecords_givesBack hplace (by decide) hrecords true⟩

end HardNames

end StoryCatalog

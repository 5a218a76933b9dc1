import StoryCatalog.Proofs.Contract.Counts
import StoryCatalog.Proofs.Contract.Record
import StoryCatalog.Proofs.Json.Characters

/-!
# What is written validates

The file with the records has each of them on a line of its own, and the validator reads it line by
line. On a sound record one step finds nothing to report (`Reading.step_record`), so a run over all
lines collects the records and no finding (`readLines_writeLines`). The summary of the same records
has the right totals, so the two files validate together (`validateContents_eq_empty`). A summary in
the place of the records does not (`errors_validateContents_ne_nil`).
-/

namespace StoryCatalog

@[simp]
theorem Report.append_empty (r : Report) : r ++ Report.empty = r := by
  show Report.append r Report.empty = r
  simp [Report.append, Report.empty]

theorem Report.errors_append (r s : Report) : (r ++ s).errors = r.errors ++ s.errors :=
  rfl

/-- A record of this schema version, at a position counted from one, under its own identifier. -/
structure StoryRecord.Sound (r : StoryRecord) : Prop where
  version : r.schemaVersion = StoryCatalog.schemaVersion
  line : 1 ≤ r.line
  column : 1 ≤ r.column
  storyId : r.storyId = r.expectedId

namespace Validation

/-! ## Lines -/

/-- Bytes without line ends are one line up to the next newline. -/
theorem lines_append {line : Bytes} (h : ∀ b ∈ line, b ≠ 0x0A ∧ b ≠ 0x0D) (rest : Bytes) :
    lines (line ++ newlineByte :: rest) = line :: lines rest := by
  induction line with
  | nil =>
      rw [List.nil_append, newlineByte, lines.eq_def]
      split
      · rename_i heq
        cases heq
      · rename_i heq
        exact absurd (List.cons.inj heq).1 (by decide)
      · rename_i heq
        obtain ⟨rfl, rfl⟩ := List.cons.inj heq
        rfl
  | cons b line ih =>
      obtain ⟨hfeed, hreturn⟩ := h b List.mem_cons_self
      rw [List.cons_append, lines.eq_def]
      split
      · rename_i heq
        cases heq
      · rename_i heq
        exact absurd (List.cons.inj heq).1 hreturn
      · rename_i heq
        obtain ⟨rfl, rfl⟩ := List.cons.inj heq
        rw [if_neg (by simp [hfeed, hreturn]), ih fun b hb => h b (List.mem_cons_of_mem _ hb)]

/-- What is written on one line has no line ends. -/
theorem not_lineEnd_of_mem_utf8 {d : Datum} (hd : d.Plain) {t : Text}
    (h : Json.writeAt .compact 0 d = .ok t) : ∀ b ∈ t.utf8, b ≠ 0x0A ∧ b ≠ 0x0D := by
  intro b hb
  have hcontrol : ∀ control : UInt8, control.toNat < 0x20 → b ≠ control := by
    rintro _ hlt rfl
    obtain ⟨c, hc, hmem⟩ := List.mem_flatMap.mp hb
    have hval := (CodePoint.mem_utf8_iff (by omega)).mp hmem
    have := (Json.admits_of_mem_writeAt hd h hc).2 rfl
    omega
  exact ⟨hcontrol 0x0A (by decide), hcontrol 0x0D (by decide)⟩

/-- The text of a table starts with a brace. -/
theorem exists_utf8_eq_brace {layout : Json.Layout} {entries : List (Text × Datum)} {t : Text}
    (h : Json.writeAt layout 0 (.table entries) = .ok t) : ∃ rest, t.utf8 = 0x7B :: rest := by
  obtain ⟨_, texts, _, rfl⟩ := Json.writeAt_table h
  obtain ⟨rest, hrest⟩ := Json.enclose_head layout 0 0x7B 0x7D texts
  exact ⟨Text.utf8 rest, by rw [hrest, Text.utf8_cons]; rfl⟩

/-! ## One step -/

/-- A version that is there has no fault but that it is another one. -/
theorem versionFault?_canonical {entries : List (Text × Datum)} (h : (entries.map Prod.fst).Nodup)
    {value : Datum} (hget : Datum.get? "schema_version" entries = some value) (version : Int) :
    versionFault? (Datum.table entries).canonical version =
      if version ≠ schemaVersion then some (.different version) else none := by
  rw [Datum.canonical, versionFault?, Datum.get?_canonical h hget]
  rfl

theorem recordReport_eq_empty {r : StoryRecord} (h : r.Sound) (path : Text) (line : Nat) :
    recordReport path line r = Report.empty := by
  have hposition : ¬((decide (r.line < 1) || decide (r.column < 1)) = true) := by
    have hline := h.line
    have hcolumn := h.column
    simp only [Bool.or_eq_true, decide_eq_true_eq]
    omega
  rw [recordReport, if_neg hposition, if_neg (not_not_intro h.storyId)]
  rfl

/-- The line that is written for a record is read as that record. -/
theorem readLine_utf8 {r : StoryRecord} {t : Text}
    (h : Json.writeAt .compact 0 r.toDatum = .ok t) :
    readLine t.utf8 = .record r.toDatum.canonical r := by
  obtain ⟨rest, hrest⟩ := exists_utf8_eq_brace h
  have hblank : ¬(t.utf8.all isBlankByte = true) := by
    rw [hrest, List.all_cons]
    simp [isBlankByte]
  rw [readLine, if_neg hblank, Json.read_writeAt r.plain_toDatum h]
  simp only [r.ofDatum_canonical]

/-- On a sound record the reading goes on without a finding. -/
theorem Reading.step_record (strict : Bool) (path : Text) {reading : Reading}
    (hversion : reading.versionReported = false) (number : Nat) {r : StoryRecord} (h : r.Sound) :
    reading.step strict path number (.record r.toDatum.canonical r) =
      { reading with records := reading.records ++ [r] } := by
  have hfault : versionFault? r.toDatum.canonical r.schemaVersion = none :=
    (versionFault?_canonical r.nodup_fields rfl _).trans (if_neg (not_not_intro h.version))
  simp only [Reading.step, hversion, hfault, recordReport_eq_empty h, versionReport,
    Report.append_empty, Option.isSome_none, Bool.or_self, Bool.false_eq_true, if_false]

/-! ## A run over all lines -/

/-- The first of the data that are written is written on its own line. -/
theorem writeLines_cons {d : Datum} {rest : List Datum} {t : Text}
    (h : Json.writeLines (d :: rest) = (t, none)) :
    ∃ line more, Json.writeAt .compact 0 d = .ok line ∧ Json.writeLines rest = (more, none) ∧
      t = line ++ CodePoint.newline :: more := by
  rw [Json.writeLines] at h
  split at h
  · exact absurd (Prod.mk.inj h).2 (by simp)
  · rename_i written hwritten
    obtain ⟨line, hline, hend⟩ := exists_of_bind_eq_ok hwritten
    cases hend
    obtain ⟨rfl, hnone⟩ := Prod.mk.inj h
    refine ⟨line, (Json.writeLines rest).1, hline, ?_, ?_⟩
    · rw [← hnone]
    · rw [List.append_assoc]
      rfl

/-- The first of the records that are written has the first line, which is read as it. -/
theorem lines_writeLines_cons {r : StoryRecord} {rest : List StoryRecord} {t : Text}
    (h : Json.writeLines ((r :: rest).map StoryRecord.toDatum) = (t, none)) :
    ∃ line more, lines t.utf8 = line :: lines (Text.utf8 more) ∧
      readLine line = .record r.toDatum.canonical r ∧
      Json.writeLines (rest.map StoryRecord.toDatum) = (more, none) := by
  obtain ⟨line, more, hline, hmore, rfl⟩ := writeLines_cons h
  refine ⟨line.utf8, more, ?_, readLine_utf8 hline, hmore⟩
  rw [Text.utf8_append, Text.utf8_cons]
  exact lines_append (not_lineEnd_of_mem_utf8 r.plain_toDatum hline) more.utf8

/-- Sound records are read back from their lines, all of them and without a finding. -/
theorem readLines_writeLines (strict : Bool) (path : Text) {records : List StoryRecord}
    (hsound : ∀ r ∈ records, r.Sound) {t : Text}
    (h : Json.writeLines (records.map StoryRecord.toDatum) = (t, none)) (reading : Reading)
    (hversion : reading.versionReported = false) (number : Nat) :
    readLines strict path reading number (lines t.utf8) =
      { reading with records := reading.records ++ records } := by
  induction records generalizing t reading number with
  | nil =>
      cases h
      rw [List.append_nil]
      rfl
  | cons r rest ih =>
      obtain ⟨line, more, hlines, hline, hmore⟩ := lines_writeLines_cons h
      rw [hlines, readLines, hline,
        Reading.step_record strict path hversion number (hsound r List.mem_cons_self),
        ih (fun r hr => hsound r (List.mem_cons_of_mem _ hr)) hmore
          { reading with records := reading.records ++ [r] } hversion,
        List.append_assoc, List.singleton_append]

/-- The records are read back from the file that was written for them. -/
theorem readRecords_writeLines (strict : Bool) (path : Text) {records : List StoryRecord}
    (hsound : ∀ r ∈ records, r.Sound) {t : Text}
    (h : Json.writeLines (records.map StoryRecord.toDatum) = (t, none)) :
    readRecords strict path t.utf8 = ⟨.empty, records, true, false⟩ :=
  readLines_writeLines strict path hsound h ⟨.empty, [], true, false⟩ rfl 1

/-! ## The summary -/

/-- The summary is read back without a finding, with its counts in ascending order. -/
theorem readSummary_write (strict : Bool) (path : Text) {s : Summary}
    (hversion : s.schemaVersion = schemaVersion) (hkinds : (s.kinds.map Prod.fst).Nodup) {t : Text}
    (h : Json.write s.toDatum = .ok t) :
    readSummary strict path t.utf8 =
      (.empty, some { s with kinds := Json.sortByName s.kinds }) := by
  have hread : Json.read t.utf8 =
      some (.table (Json.sortByName (Datum.canonical.canonicalEntries s.fields))) :=
    Json.read_writeAt (Summary.plain_toDatum hkinds) h
  have hschema : Summary.ofDatum
      (.table (Json.sortByName (Datum.canonical.canonicalEntries s.fields))) =
        .ok { s with kinds := Json.sortByName s.kinds } := s.ofDatum_canonical
  have hfault : versionFault?
      (.table (Json.sortByName (Datum.canonical.canonicalEntries s.fields))) s.schemaVersion =
        none :=
    (versionFault?_canonical s.nodup_fields rfl _).trans (if_neg (not_not_intro hversion))
  rw [readSummary, hread]
  simp only [hschema, hfault, versionReport]

/-- The totals of a summary are those of the records that it was made from. -/
theorem totalsReport_eq_empty (path : Text) {s : Summary} {records : List StoryRecord}
    (hcount : s.storyCount = records.length)
    (hkinds : s.kinds.Perm (kindCounts (records.map StoryRecord.kind))) :
    totalsReport path s records = Report.empty := by
  have hsame := sameCounts_of_perm hkinds (ascending_kindCounts _).nodup
  rw [totalsReport, if_neg (not_not_intro hcount), if_pos hsame]
  rfl

/-- Records and a summary of them validate together, strictly or not. -/
theorem validateContents_eq_empty (strict : Bool) (recordsPath summaryPath : Text)
    {records : List StoryRecord} (hsound : ∀ r ∈ records, r.Sound) {s : Summary}
    (hversion : s.schemaVersion = schemaVersion) (hcount : s.storyCount = records.length)
    (hkinds : s.kinds = kindCounts (records.map StoryRecord.kind)) {t u : Text}
    (ht : Json.writeLines (records.map StoryRecord.toDatum) = (t, none))
    (hu : Json.write s.toDatum = .ok u) :
    validateContents strict recordsPath summaryPath t.utf8 u.utf8 = Report.empty := by
  have hnodup : (s.kinds.map Prod.fst).Nodup := by
    rw [hkinds]
    exact (ascending_kindCounts _).nodup
  have htotals : totalsReport summaryPath { s with kinds := Json.sortByName s.kinds } records =
      Report.empty := by
    refine totalsReport_eq_empty summaryPath hcount ?_
    rw [← hkinds]
    exact Json.sortByName_perm s.kinds
  -- the validator counts the kinds again, and only the order of its counts may differ
  rw [validateContents, readRecords_writeLines strict recordsPath hsound ht,
    readSummary_write strict summaryPath hversion hnodup hu]
  simp only [htotals, Report.append_empty]

/-! ## A summary in the place of the records -/

/-- A step keeps the errors that were found before. -/
theorem Reading.errors_step (strict : Bool) (path : Text) (reading : Reading) (number : Nat)
    (content : LineContent) :
    reading.report.errors <+: (reading.step strict path number content).report.errors := by
  cases content with
  | blank => exact List.prefix_rfl
  | invalid => exact List.prefix_append _ _
  | unfit issues => exact List.prefix_append _ _
  | record datum record =>
      simp only [Reading.step, Report.errors_append, List.append_assoc]
      exact List.prefix_append _ _

theorem errors_readLines (strict : Bool) (path : Text) (reading : Reading) (number : Nat)
    (lines : List Bytes) :
    reading.report.errors <+: (readLines strict path reading number lines).report.errors := by
  induction lines generalizing reading number with
  | nil => exact List.prefix_rfl
  | cons line rest ih => exact (reading.errors_step strict path number _).trans (ih _ _)

/-- On several lines, the first line of a table is a brace alone. -/
theorem exists_utf8_write {entries : List (Text × Datum)} (hentries : entries ≠ []) {t : Text}
    (h : Json.write (.table entries) = .ok t) : ∃ rest, t.utf8 = [0x7B] ++ newlineByte :: rest := by
  obtain ⟨_, texts, htexts, rfl⟩ := Json.writeAt_table h
  have hne : texts ≠ [] := by
    rintro rfl
    rw [Json.writeEntries_eq] at htexts
    have hlength := (Json.forall₂_entries htexts).length_eq
    rw [(Json.sortByName_perm _).length_eq, List.length_map] at hlength
    exact hentries (List.eq_nil_of_length_eq_zero hlength.symm)
  have happend := Json.enclose_append .indented 0 0x7B 0x7D hne []
  rw [List.append_nil] at happend
  rw [happend, Json.Layout.lineEnd, List.cons_append, Text.utf8_cons, Text.utf8_cons]
  exact ⟨_, rfl⟩

/-- A summary that is read as records has an error on its first line. -/
theorem errors_validateContents_ne_nil (strict : Bool) (recordsPath summaryPath : Text)
    (s : Summary) {t : Text} (h : Json.write s.toDatum = .ok t) (summary : Bytes) :
    (validateContents strict recordsPath summaryPath t.utf8 summary).errors ≠ [] := by
  obtain ⟨rest, hrest⟩ := exists_utf8_write (List.cons_ne_nil _ _) h
  have hread : Json.read [0x7B] = none := Option.isNone_iff_eq_none.mp (by decide +kernel)
  have hline : readLine [0x7B] = .invalid := by
    rw [readLine, if_neg (by decide), hread]
  have herrors : (readRecords strict recordsPath t.utf8).report.errors ≠ [] := by
    rw [readRecords, hrest, lines_append (by simp), readLines, hline]
    intro hnil
    have hprefix := errors_readLines strict recordsPath
      ((Reading.mk .empty [] true false).step strict recordsPath 1 .invalid) 2 (lines rest)
    rw [hnil, List.prefix_nil] at hprefix
    cases hprefix
  intro hnil
  refine herrors ?_
  rw [validateContents, Report.errors_append, Report.errors_append] at hnil
  exact (List.append_eq_nil_iff.mp (List.append_eq_nil_iff.mp hnil).1).1

end Validation

end StoryCatalog

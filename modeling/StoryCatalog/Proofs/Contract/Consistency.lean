import StoryCatalog.Catalog.Verify
import StoryCatalog.Proofs.Contract.Validation
import StoryCatalog.Proofs.Json.Names

/-!
# Strict validation accepts exactly the consistent artifacts

`Validation.Consistent` says, without going through the validator, when the content of the two files
fits together. A strict validation has no error exactly then, and never a warning
(`ok_validate_strict_iff`).

The records are read in one loop that goes on after a fault and stops looking at versions after the
first fault of one. In strict validation such a fault is an error, and errors stay
(`Reading.errors_step`), so what the loop does afterwards cannot matter: a step without an error
only adds a record (`Reading.step_of_fits`), and the loop has no error exactly when no line has one
(`errors_readLines_strict_iff`).
-/

namespace StoryCatalog

namespace Schema.Checked

variable {α β : Type}

/-- A checked value that is changed was accepted before. -/
theorem exists_of_map_eq_ok {f : α → β} {x : Checked α} {b : β} (h : f <$> x = .ok b) :
    ∃ a, x = .ok a ∧ f a = b := by
  cases x with
  | ok a => exact ⟨a, rfl, ok.inj h⟩
  | refused issues => cases h

/-- Two checked values are accepted together when each of them is. -/
theorem exists_of_seq_eq_ok {f : Checked (α → β)} {x : Checked α} {b : β}
    (h : f <*> x = .ok b) : ∃ g a, f = .ok g ∧ x = .ok a ∧ g a = b := by
  cases f with
  | ok g =>
      cases x with
      | ok a => exact ⟨g, a, rfl, rfl, ok.inj h⟩
      | refused issues => cases h
  | refused issues =>
      cases x with
      | ok a => cases h
      | refused more => cases h

/-- The place of a value makes no difference to its check. -/
theorem eq_ok_of_under_eq_ok {step : Step} {x : Checked α} {a : α} (h : under step x = .ok a) :
    x = .ok a := by
  cases x with
  | ok b => exact h
  | refused issues => cases h

/-- The names of a table stay when its data are checked. -/
theorem map_fst_of_entries_eq_ok {check : Datum → Checked α} {data : List (Text × Datum)}
    {values : List (Text × α)} (h : entries check data = .ok values) :
    values.map Prod.fst = data.map Prod.fst := by
  induction data generalizing values with
  | nil =>
      cases h
      rfl
  | cons entry rest ih =>
      obtain ⟨name, value⟩ := entry
      rw [entries] at h
      obtain ⟨f, more, hf, hmore, rfl⟩ := exists_of_seq_eq_ok h
      obtain ⟨first, _, rfl⟩ := exists_of_map_eq_ok hf
      rw [List.map_cons, List.map_cons, ih hmore]

end Schema.Checked

/-- A report is fine when it has no errors. -/
theorem Report.ok_iff {r : Report} : r.ok = true ↔ r.errors = [] :=
  List.isEmpty_iff

theorem Report.warnings_append (r s : Report) : (r ++ s).warnings = r.warnings ++ s.warnings :=
  rfl

open Schema in
/-- No kind is counted twice in a summary that was read from a table without equal names. -/
theorem Summary.nodup_kinds {data : List (Text × Datum)} (hnames : Datum.WellNamed (.table data))
    {s : Summary} (h : Summary.ofDatum (.table data) = .ok s) : (s.kinds.map Prod.fst).Nodup := by
  obtain ⟨f, skipped, hf, _, rfl⟩ := Checked.exists_of_seq_eq_ok h
  obtain ⟨g, kinds, hg, hkinds, rfl⟩ := Checked.exists_of_seq_eq_ok hf
  obtain ⟨k, storyCount, hk, _, rfl⟩ := Checked.exists_of_seq_eq_ok hg
  obtain ⟨m, fileCount, hm, _, rfl⟩ := Checked.exists_of_seq_eq_ok hk
  obtain ⟨version, _, rfl⟩ := Checked.exists_of_map_eq_ok hm
  show (kinds.map Prod.fst).Nodup
  unfold Schema.optional at hkinds
  split at hkinds
  · rename_i value hvalue
    have hvalue := hnames.of_get? hvalue
    have htable := Checked.eq_ok_of_under_eq_ok hkinds
    cases value with
    | table entries =>
        rw [Checked.map_fst_of_entries_eq_ok htable]
        exact hvalue.nodup
    | null | bool | integer | real | text | moment | list => cases htable
  · cases hkinds
    exact List.nodup_nil

namespace Validation

/-! ## Consistent artifacts -/

/-- The lines of a file that hold more than blanks. -/
def filledLines (content : Bytes) : List Bytes :=
  (lines content).filter fun line => !line.all isBlankByte

/-- A line holds a record: it is a JSON object that fits the schema and states its version, the
version is that of the contract, the position is counted from one, and the identifier is the one
that the other fields ask for. -/
structure HoldsRecord (line : Bytes) (r : StoryRecord) : Prop where
  read : ∃ data, Json.read line = some (.table data) ∧ StoryRecord.ofDatum (.table data) = .ok r ∧
    (Datum.get? "schema_version" data).isSome = true
  sound : r.Sound

/-- A file holds a summary: it is a JSON object that fits the schema and states its version, which
is that of the contract. -/
structure HoldsSummary (content : Bytes) (s : Summary) : Prop where
  read : ∃ data, Json.read content = some (.table data) ∧ Summary.ofDatum (.table data) = .ok s ∧
    (Datum.get? "schema_version" data).isSome = true
  version : s.schemaVersion = schemaVersion

/-- The two files hold these records and this summary, and the totals of the summary are those of
the records: as many stories as there are lines with something on them, and under each kind that
occurs, and under no other name, how often it occurs. -/
structure Consistent (records summary : Bytes) (held : List StoryRecord) (s : Summary) : Prop where
  eachLine : List.Forall₂ HoldsRecord (filledLines records) held
  holdsSummary : HoldsSummary summary s
  storyCount : s.storyCount = (filledLines records).length
  kinds : ∀ kind count, (kind, count) ∈ s.kinds ↔
    kind ∈ held.map StoryRecord.kind ∧ count = (held.map StoryRecord.kind).count kind

/-! ## Versions -/

/-- A version has no fault when a table states it and it is that of the contract. -/
theorem versionFault?_eq_none_iff {datum : Datum} {version : Int} :
    versionFault? datum version = none ↔
      ∃ data, datum = .table data ∧ (Datum.get? "schema_version" data).isSome = true ∧
        version = schemaVersion := by
  cases datum with
  | table data =>
      rw [versionFault?]
      cases hget : Datum.get? "schema_version" data with
      | none => simp [hget]
      | some value => simp [hget]
  | null | bool | integer | real | text | moment | list => simp [versionFault?]

/-- In strict validation every fault of a version is an error. -/
theorem errors_versionReport_strict_iff {artifact : String} {path : Text} {line : Option Nat}
    {fault : Option VersionFault} :
    (versionReport true artifact path line fault).errors = [] ↔ fault = none := by
  cases fault with
  | none => exact iff_of_true rfl rfl
  | some fault =>
      cases fault with
      | missing => exact iff_of_false (by simp [versionReport, Report.error]) (by simp)
      | different found => exact iff_of_false (by simp [versionReport, Report.error]) (by simp)

/-- A strict check has no warnings about versions. -/
theorem warnings_versionReport_strict {artifact : String} {path : Text} {line : Option Nat}
    (fault : Option VersionFault) :
    (versionReport true artifact path line fault).warnings = [] := by
  cases fault with
  | none => rfl
  | some fault =>
      cases fault with
      | missing => rfl
      | different found => rfl

/-! ## One line -/

/-- The records of a line: one or none. -/
def LineContent.records : LineContent → List StoryRecord
  | .record _ r => [r]
  | _ => []

/-- There is nothing against a line in strict validation. -/
def LineContent.Fits : LineContent → Prop
  | .blank => True
  | .invalid => False
  | .unfit _ => False
  | .record datum r => versionFault? datum r.schemaVersion = none ∧ r.Sound

/-- A record is without errors when its position counts from one and its identifier is the one that
its fields ask for. -/
theorem errors_recordReport_iff {path : Text} {number : Nat} {r : StoryRecord} :
    (recordReport path number r).errors = [] ↔
      1 ≤ r.line ∧ 1 ≤ r.column ∧ r.storyId = r.expectedId := by
  have hposition : (decide (r.line < 1) || decide (r.column < 1)) = true ↔
      ¬(1 ≤ r.line ∧ 1 ≤ r.column) := by
    rw [Bool.or_eq_true, decide_eq_true_eq, decide_eq_true_eq]
    omega
  rw [recordReport, Report.errors_append, List.append_eq_nil_iff, ← and_assoc]
  refine and_congr ?_ ?_
  · split
    · rename_i hout
      exact iff_of_false (by simp [Report.error]) (hposition.mp hout)
    · rename_i hin
      rw [hposition, not_not] at hin
      exact iff_of_true rfl hin
  · split
    · rename_i hne
      exact iff_of_false (by simp [Report.error]) hne
    · rename_i heq
      exact iff_of_true rfl (not_not.mp heq)

/-- There are no warnings about a record. -/
theorem warnings_recordReport (path : Text) (number : Nat) (r : StoryRecord) :
    (recordReport path number r).warnings = [] := by
  rw [recordReport, Report.warnings_append]
  split <;> split <;> rfl

/-- A line that fits adds its record, and nothing else happens. -/
theorem Reading.step_of_fits (path : Text) {reading : Reading}
    (hversion : reading.versionReported = false) (number : Nat) {content : LineContent}
    (h : content.Fits) :
    reading.step true path number content =
      { reading with records := reading.records ++ content.records } := by
  cases content with
  | blank => simp only [Reading.step, LineContent.records, List.append_nil]
  | invalid => exact h.elim
  | unfit issues => exact h.elim
  | record datum r =>
      simp only [Reading.step, LineContent.records, hversion, h.1, recordReport_eq_empty h.2,
        versionReport, Report.append_empty, Option.isSome_none, Bool.or_self, Bool.false_eq_true,
        if_false]

/-- A line that does not fit is an error. -/
theorem Reading.errors_step_of_not_fits (path : Text) {reading : Reading}
    (hversion : reading.versionReported = false) (number : Nat) {content : LineContent}
    (h : ¬content.Fits) : (reading.step true path number content).report.errors ≠ [] := by
  cases content with
  | blank => exact absurd trivial h
  | invalid => simp [Reading.step, Report.errors_append, Report.error]
  | unfit issues => simp [Reading.step, Report.errors_append, Report.error]
  | record datum r =>
      intro hnil
      simp only [Reading.step, hversion, Bool.false_eq_true, if_false, Report.errors_append,
        List.append_eq_nil_iff] at hnil
      obtain ⟨⟨_, hfault⟩, hrecord⟩ := hnil
      rw [errors_versionReport_strict_iff] at hfault
      obtain ⟨_, _, _, hright⟩ := versionFault?_eq_none_iff.mp hfault
      obtain ⟨hline, hcolumn, hid⟩ := errors_recordReport_iff.mp hrecord
      exact h ⟨hfault, hright, hline, hcolumn, hid⟩

/-- A strict step adds no warnings. -/
theorem Reading.warnings_step_strict (path : Text) (reading : Reading) (number : Nat)
    (content : LineContent) :
    (reading.step true path number content).report.warnings = reading.report.warnings := by
  cases content with
  | blank => rfl
  | invalid => exact List.append_nil _
  | unfit issues => exact List.append_nil _
  | record datum r =>
      simp only [Reading.step, Report.warnings_append, warnings_versionReport_strict,
        warnings_recordReport, List.append_nil]

/-! ## All lines -/

/-- When every line fits, reading them gathers their records. -/
theorem readLines_of_fits (path : Text) {lines : List Bytes}
    (h : ∀ line ∈ lines, (readLine line).Fits) (reading : Reading)
    (hversion : reading.versionReported = false) (number : Nat) :
    readLines true path reading number lines =
      { reading with records := reading.records ++ lines.flatMap fun line => (readLine line).records
      } := by
  induction lines generalizing reading number with
  | nil => simp only [readLines, List.flatMap_nil, List.append_nil]
  | cons line rest ih =>
      obtain ⟨hline, hrest⟩ := List.forall_mem_cons.mp h
      rw [readLines, Reading.step_of_fits path hversion number hline,
        ih hrest { reading with records := reading.records ++ (readLine line).records } hversion]
      simp only [List.flatMap_cons, List.append_assoc]

/-- Reading lines in strict validation finds no error exactly when every line fits. -/
theorem errors_readLines_strict_iff (path : Text) (lines : List Bytes) (reading : Reading)
    (hversion : reading.versionReported = false) (herrors : reading.report.errors = [])
    (number : Nat) :
    (readLines true path reading number lines).report.errors = [] ↔
      ∀ line ∈ lines, (readLine line).Fits := by
  constructor
  · intro hnil
    induction lines generalizing reading number with
    | nil => simp
    | cons line rest ih =>
        rw [readLines] at hnil
        have hline : (readLine line).Fits := by
          by_contra hnot
          have hprefix := errors_readLines true path
            (reading.step true path number (readLine line)) (number + 1) rest
          rw [hnil, List.prefix_nil] at hprefix
          exact Reading.errors_step_of_not_fits path hversion number hnot hprefix
        rw [Reading.step_of_fits path hversion number hline] at hnil
        have hrest := ih { reading with records := reading.records ++ (readLine line).records }
          hversion herrors _ hnil
        exact List.forall_mem_cons.mpr ⟨hline, hrest⟩
  · intro h
    rw [readLines_of_fits path h reading hversion number]
    exact herrors

/-- A strict reading of lines adds no warnings. -/
theorem warnings_readLines_strict (path : Text) (reading : Reading) (number : Nat)
    (lines : List Bytes) :
    (readLines true path reading number lines).report.warnings = reading.report.warnings := by
  induction lines generalizing reading number with
  | nil => rfl
  | cons line rest ih => rw [readLines, ih, Reading.warnings_step_strict]

/-- A line with something on it is refused or holds a record. -/
theorem exists_records_of_filled {fits : LineContent → Prop} (hinvalid : ¬fits .invalid)
    (hunfit : ∀ issues, ¬fits (.unfit issues)) {line : Bytes}
    (hfilled : line.all isBlankByte = false) (h : fits (readLine line)) :
    ∃ r, (readLine line).records = [r] := by
  cases hread : readLine line with
  | blank =>
      rw [readLine, if_neg (by simp [hfilled])] at hread
      split at hread
      · cases hread
      · split at hread
        · cases hread
        · cases hread
  | invalid =>
      rw [hread] at h
      exact absurd h hinvalid
  | unfit issues =>
      rw [hread] at h
      exact absurd h (hunfit issues)
  | record datum r => exact ⟨r, rfl⟩

/-- A line with something on it fits exactly when it holds a record, which is then the one read. -/
theorem holdsRecord_iff {line : Bytes} (hfilled : line.all isBlankByte = false) {r : StoryRecord} :
    HoldsRecord line r ↔ (readLine line).Fits ∧ (readLine line).records = [r] := by
  rw [readLine, if_neg (by simp [hfilled])]
  constructor
  · rintro ⟨⟨data, hread, hschema, hstated⟩, hsound⟩
    simp only [hread, hschema]
    exact ⟨⟨versionFault?_eq_none_iff.mpr ⟨data, rfl, hstated, hsound.version⟩, hsound⟩, rfl⟩
  · rintro ⟨hfits, hrecords⟩
    split at hfits
    · exact hfits.elim
    · rename_i datum hread
      simp only [hread] at hrecords
      split at hfits
      · exact hfits.elim
      · rename_i found hschema
        simp only [hschema, LineContent.records, List.cons.injEq, and_true] at hrecords
        subst hrecords
        obtain ⟨data, rfl, hstated, _⟩ := versionFault?_eq_none_iff.mp hfits.1
        exact ⟨⟨data, hread, hschema, hstated⟩, hfits.2⟩

/-- What is asked of single lines, asked of all of them: lines fit exactly when those with something
on them hold records, which are then those read. -/
theorem forall₂_filled_iff {holds : Bytes → StoryRecord → Prop} {fits : LineContent → Prop}
    (hfits : fits .blank) (hinvalid : ¬fits .invalid) (hunfit : ∀ issues, ¬fits (.unfit issues))
    (hholds : ∀ {line : Bytes}, line.all isBlankByte = false → ∀ {r : StoryRecord},
      holds line r ↔ fits (readLine line) ∧ (readLine line).records = [r])
    {lines : List Bytes} {held : List StoryRecord} :
    List.Forall₂ holds (lines.filter fun line => !line.all isBlankByte) held ↔
      (∀ line ∈ lines, fits (readLine line)) ∧
        held = lines.flatMap fun line => (readLine line).records := by
  induction lines generalizing held with
  | nil => simp
  | cons line rest ih =>
      rw [List.forall_mem_cons, List.flatMap_cons]
      cases hblank : line.all isBlankByte with
      | true =>
          have hread : readLine line = .blank := by rw [readLine, if_pos hblank]
          rw [List.filter_cons_of_neg (by simp [hblank]), ih, hread]
          simp [hfits, LineContent.records]
      | false =>
          rw [List.filter_cons_of_pos (by simp [hblank]), List.forall₂_cons_left_iff]
          constructor
          · rintro ⟨r, others, hr, hothers, rfl⟩
            obtain ⟨hline, hrecords⟩ := (hholds hblank).mp hr
            obtain ⟨hrest, rfl⟩ := ih.mp hothers
            exact ⟨⟨hline, hrest⟩, by rw [hrecords]; rfl⟩
          · rintro ⟨⟨hline, hrest⟩, rfl⟩
            obtain ⟨r, hrecords⟩ := exists_records_of_filled hinvalid hunfit hblank hline
            refine ⟨r, _, (hholds hblank).mpr ⟨hline, hrecords⟩, ih.mpr ⟨hrest, rfl⟩, ?_⟩
            rw [hrecords]
            rfl

/-- The lines that are not blank hold the records exactly when every line fits and the records are
those of the lines. -/
theorem forall_fits_iff {lines : List Bytes} {held : List StoryRecord} :
    List.Forall₂ HoldsRecord (lines.filter fun line => !line.all isBlankByte) held ↔
      (∀ line ∈ lines, (readLine line).Fits) ∧
        held = lines.flatMap fun line => (readLine line).records :=
  forall₂_filled_iff trivial not_false (fun _ => not_false) fun hfilled => holdsRecord_iff hfilled

/-- The records of a file are read without an error exactly when each filled line holds one, and
then those are the records read. -/
theorem readRecords_strict (path : Text) (content : Bytes) :
    ((readRecords true path content).report.errors = [] ↔
        ∃ held, List.Forall₂ HoldsRecord (filledLines content) held) ∧
      ∀ held, List.Forall₂ HoldsRecord (filledLines content) held →
        (readRecords true path content).records = held ∧
          (readRecords true path content).complete = true := by
  have hiff := errors_readLines_strict_iff path (lines content) ⟨.empty, [], true, false⟩ rfl rfl 1
  refine ⟨?_, ?_⟩
  · rw [readRecords, hiff]
    constructor
    · exact fun h => ⟨_, forall_fits_iff.mpr ⟨h, rfl⟩⟩
    · rintro ⟨held, hheld⟩
      exact (forall_fits_iff.mp hheld).1
  · intro held hheld
    obtain ⟨hfits, rfl⟩ := forall_fits_iff.mp hheld
    rw [readRecords, readLines_of_fits path hfits ⟨.empty, [], true, false⟩ rfl 1]
    exact ⟨rfl, rfl⟩

/-! ## The summary and the totals -/

/-- A summary that a file holds is read without a finding. -/
theorem readSummary_of_holdsSummary (path : Text) {content : Bytes} {s : Summary}
    (h : HoldsSummary content s) : readSummary true path content = (.empty, some s) := by
  obtain ⟨⟨data, hread, hschema, hstated⟩, hversion⟩ := h
  have hfault := versionFault?_eq_none_iff.mpr ⟨data, rfl, hstated, hversion⟩
  rw [readSummary, hread]
  simp only [hschema, hfault, versionReport]

/-- Without an error only a summary that the file holds is read. -/
theorem exists_holdsSummary (path : Text) {content : Bytes}
    (h : (readSummary true path content).1.errors = []) : ∃ s, HoldsSummary content s := by
  rw [readSummary] at h
  split at h
  · simp [Report.error] at h
  · rename_i data hread
    split at h
    · simp [Report.error] at h
    · rename_i s hschema
      rw [errors_versionReport_strict_iff] at h
      obtain ⟨_, heq, hstated, hversion⟩ := versionFault?_eq_none_iff.mp h
      cases heq
      exact ⟨s, ⟨data, hread, hschema, hstated⟩, hversion⟩
  · simp [Report.error] at h

/-- A strict reading of the summary has no warnings. -/
theorem warnings_readSummary_strict (path : Text) (content : Bytes) :
    (readSummary true path content).1.warnings = [] := by
  rw [readSummary]
  split
  · rfl
  · split
    · rfl
    · exact warnings_versionReport_strict _
  · rfl

/-- The totals are without errors when they are those of the records. -/
theorem errors_totalsReport_iff {path : Text} {s : Summary} {records : List StoryRecord} :
    (totalsReport path s records).errors = [] ↔
      s.storyCount = records.length ∧
        sameCounts s.kinds (kindCounts (records.map StoryRecord.kind)) = true := by
  rw [totalsReport, Report.errors_append, List.append_eq_nil_iff]
  refine and_congr ?_ ?_
  · split
    · rename_i hne
      exact iff_of_false (by simp [Report.error]) hne
    · rename_i heq
      exact iff_of_true rfl (not_not.mp heq)
  · split
    · rename_i hsame
      exact iff_of_true rfl hsame
    · rename_i hsame
      exact iff_of_false (by simp [Report.error]) hsame

/-- There are no warnings about totals. -/
theorem warnings_totalsReport (path : Text) (s : Summary) (records : List StoryRecord) :
    (totalsReport path s records).warnings = [] := by
  rw [totalsReport, Report.warnings_append]
  split <;> split <;> rfl

/-! ## Both files -/

/-- The totals of a summary that was read are right exactly when they count the records and, under
each kind that occurs, how often it does. -/
theorem errors_totalsReport_iff_of_read {summary : Bytes} {data : List (Text × Datum)} {s : Summary}
    (hread : Json.read summary = some (.table data))
    (hschema : Summary.ofDatum (.table data) = .ok s)
    {path : Text} {held : List StoryRecord} :
    (totalsReport path s held).errors = [] ↔
      s.storyCount = held.length ∧ ∀ kind count, (kind, count) ∈ s.kinds ↔
        kind ∈ held.map StoryRecord.kind ∧ count = (held.map StoryRecord.kind).count kind := by
  have hkinds := sameCounts_iff (Summary.nodup_kinds (Json.wellNamed_read hread) hschema)
    (ascending_kindCounts (held.map StoryRecord.kind)).nodup
  simp only [mem_kindCounts] at hkinds
  rw [errors_totalsReport_iff, hkinds]

/-- The totals of a summary that a file holds are right exactly when they are consistent with the
records. -/
theorem consistent_iff {records summary : Bytes} {held : List StoryRecord} {s : Summary}
    {path : Text} (hheld : List.Forall₂ HoldsRecord (filledLines records) held)
    (hsummary : HoldsSummary summary s) :
    (totalsReport path s held).errors = [] ↔ Consistent records summary held s := by
  obtain ⟨data, hread, hschema, _⟩ := hsummary.read
  rw [errors_totalsReport_iff_of_read hread hschema, ← hheld.length_eq]
  constructor
  · rintro ⟨hcount, hkinds⟩
    exact ⟨hheld, hsummary, hcount, hkinds⟩
  · intro h
    exact ⟨h.storyCount, h.kinds⟩

/-- Strict validation of the content of both files finds no error exactly when they are
consistent. -/
theorem errors_validateContents_strict_iff {recordsPath summaryPath : Text}
    {records summary : Bytes} :
    (validateContents true recordsPath summaryPath records summary).errors = [] ↔
      ∃ held s, Consistent records summary held s := by
  obtain ⟨hrecords, hread⟩ := readRecords_strict recordsPath records
  rw [validateContents, Report.errors_append, Report.errors_append, List.append_eq_nil_iff,
    List.append_eq_nil_iff, hrecords]
  constructor
  · rintro ⟨⟨⟨held, hheld⟩, hsummary⟩, htotals⟩
    obtain ⟨s, hs⟩ := exists_holdsSummary summaryPath hsummary
    obtain ⟨hfound, hcomplete⟩ := hread held hheld
    rw [readSummary_of_holdsSummary summaryPath hs, hcomplete, hfound] at htotals
    exact ⟨held, s, (consistent_iff hheld hs).mp htotals⟩
  · rintro ⟨held, s, h⟩
    obtain ⟨hfound, hcomplete⟩ := hread held h.eachLine
    rw [readSummary_of_holdsSummary summaryPath h.holdsSummary, hcomplete, hfound]
    exact ⟨⟨⟨held, h.eachLine⟩, rfl⟩, (consistent_iff h.eachLine h.holdsSummary).mpr h⟩

/-- A strict validation has no warnings. -/
theorem warnings_validateContents_strict (recordsPath summaryPath : Text)
    (records summary : Bytes) :
    (validateContents true recordsPath summaryPath records summary).warnings = [] := by
  rw [validateContents, Report.warnings_append, Report.warnings_append,
    warnings_readSummary_strict, readRecords, warnings_readLines_strict]
  split
  · exact warnings_totalsReport _ _ _
  · rfl

end Validation

namespace Disk

/-- Whatever a directory holds: a strict validation of it is without an error exactly when it is a
directory with both files, and these are consistent. It never has a warning. -/
theorem ok_validate_strict_iff (disk : Disk) (path : Path) :
    ((disk.validate true path).ok = true ↔
        disk.node? path = some .directory ∧
          ∃ records summary, disk.content? (path.child storiesFile) = some records ∧
            disk.content? (path.child summaryFile) = some summary ∧
            ∃ held s, Validation.Consistent records summary held s) ∧
      (disk.validate true path).warnings = [] := by
  rw [Report.ok_iff, validate, artifactsAt]
  split
  · rename_i hnode
    exact ⟨iff_of_false (by simp [Validation.validate, Report.error]) (by simp [hnode]), rfl⟩
  · rename_i hnode
    cases hrecords : disk.content? (path.child storiesFile) with
    | none =>
        refine ⟨iff_of_false ?_ ?_, ?_⟩
        · simp [Validation.validate, Report.error, Report.errors_append]
        · rintro ⟨_, records, _, hsome, _⟩
          cases hsome
        · cases disk.content? (path.child summaryFile) <;> rfl
    | some records =>
        cases hsummary : disk.content? (path.child summaryFile) with
        | none =>
            refine ⟨iff_of_false ?_ ?_, rfl⟩
            · simp [Validation.validate, Report.error, Report.errors_append]
            · rintro ⟨_, _, summary, _, hsome, _⟩
              cases hsome
        | some summary =>
            refine ⟨?_, Validation.warnings_validateContents_strict _ _ records summary⟩
            rw [Validation.validate, Validation.errors_validateContents_strict_iff]
            constructor
            · intro h
              exact ⟨hnode, records, summary, rfl, rfl, h⟩
            · rintro ⟨_, _, _, hfound, hfound', h⟩
              cases hfound
              cases hfound'
              exact h
  · rename_i node hother hnode
    refine ⟨iff_of_false (by simp [Validation.validate, Report.error]) ?_, rfl⟩
    rintro ⟨hdirectory, _⟩
    rw [hdirectory] at hnode
    exact hother (Option.some.inj hnode).symm

end Disk

end StoryCatalog

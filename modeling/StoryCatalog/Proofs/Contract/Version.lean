import StoryCatalog.Proofs.Contract.Consistency

/-!
# Which versions are errors

A record of another schema version is an error, but of the versions of the records only the first
fault counts, and in lenient validation a version that is not stated is a fault without being an
error. So a record of another version goes unnoticed exactly behind one that states no version
(`ok_validate_of_otherVersion_iff`).

Of the versions a reading keeps only whether a fault was met. What one line adds is said in
`Reading.errors_step_iff`, and by induction on the lines a run finds no error exactly when no line
has one but for its version and the first fault of a version is tolerated (`errors_readLines_iff`).
-/

namespace StoryCatalog

/-- A field that is not there has its default value. -/
theorem Schema.optional_of_get?_eq_none {α : Type} {data : List (Text × Datum)} {name : Text}
    (h : Datum.get? name data = none) (default : α) (check : Datum → Schema.Checked α) :
    Schema.optional data name default check = .ok default := by
  rw [Schema.optional, h]

/-- Only a table is read as a record. -/
theorem StoryRecord.exists_table_of_ofDatum {datum : Datum} {r : StoryRecord}
    (h : ofDatum datum = .ok r) : ∃ data, datum = .table data := by
  cases datum with
  | table data => exact ⟨data, rfl⟩
  | null | bool | integer | real | text | moment | list => cases h

open Schema in
/-- A record that states no version has that of the contract. -/
theorem StoryRecord.schemaVersion_of_get?_eq_none {data : List (Text × Datum)} {r : StoryRecord}
    (h : ofDatum (.table data) = .ok r) (hnone : Datum.get? "schema_version" data = none) :
    r.schemaVersion = StoryCatalog.schemaVersion := by
  rw [ofDatum, record, optional_of_get?_eq_none hnone] at h
  obtain ⟨f, column, hf, _, rfl⟩ := Checked.exists_of_seq_eq_ok h
  obtain ⟨g, line, hg, _, rfl⟩ := Checked.exists_of_seq_eq_ok hf
  obtain ⟨k, story, hk, _, rfl⟩ := Checked.exists_of_seq_eq_ok hg
  obtain ⟨m, kind, hm, _, rfl⟩ := Checked.exists_of_seq_eq_ok hk
  obtain ⟨n, path, hn, _, rfl⟩ := Checked.exists_of_seq_eq_ok hm
  obtain ⟨p, storyId, hp, _, rfl⟩ := Checked.exists_of_seq_eq_ok hn
  obtain ⟨version, hversion, rfl⟩ := Checked.exists_of_map_eq_ok hp
  exact (Checked.ok.inj hversion).symm

open Schema in
/-- A summary that states no version has that of the contract. -/
theorem Summary.schemaVersion_of_get?_eq_none {data : List (Text × Datum)} {s : Summary}
    (h : ofDatum (.table data) = .ok s) (hnone : Datum.get? "schema_version" data = none) :
    s.schemaVersion = StoryCatalog.schemaVersion := by
  rw [ofDatum, record, optional_of_get?_eq_none hnone] at h
  obtain ⟨f, skipped, hf, _, rfl⟩ := Checked.exists_of_seq_eq_ok h
  obtain ⟨g, kinds, hg, _, rfl⟩ := Checked.exists_of_seq_eq_ok hf
  obtain ⟨k, storyCount, hk, _, rfl⟩ := Checked.exists_of_seq_eq_ok hg
  obtain ⟨m, fileCount, hm, _, rfl⟩ := Checked.exists_of_seq_eq_ok hk
  obtain ⟨version, hversion, rfl⟩ := Checked.exists_of_map_eq_ok hm
  exact (Checked.ok.inj hversion).symm

namespace Validation

/-! ## Records of any version -/

/-- A line is a JSON object that fits the schema of a record. -/
def ReadsAs (line : Bytes) (data : List (Text × Datum)) (r : StoryRecord) : Prop :=
  Json.read line = some (.table data) ∧ StoryRecord.ofDatum (.table data) = .ok r

/-- A line fits the schema of a record and has another schema version than the contract. -/
def OfOtherVersion (line : Bytes) : Prop :=
  ∃ data r, ReadsAs line data r ∧ r.schemaVersion ≠ schemaVersion

/-- A line fits the schema of a record and states no schema version. -/
def Unversioned (line : Bytes) : Prop :=
  ∃ data r, ReadsAs line data r ∧ Datum.get? "schema_version" data = none

/-- A line holds a record, of whatever version: it fits the schema, the position is counted from
one, and the identifier is the one that the other fields ask for. -/
structure HoldsAnyVersion (line : Bytes) (r : StoryRecord) : Prop where
  read : ∃ data, ReadsAs line data r
  line : 1 ≤ r.line
  column : 1 ≤ r.column
  storyId : r.storyId = r.expectedId

/-- The two files hold these records, of whatever versions, and this summary, which states the
version of the contract or none, and the totals of the summary are those of the records. -/
structure ConsistentAnyVersion (records summary : Bytes) (held : List StoryRecord) (s : Summary) :
    Prop where
  eachLine : List.Forall₂ HoldsAnyVersion (filledLines records) held
  read : ∃ data, Json.read summary = some (.table data) ∧ Summary.ofDatum (.table data) = .ok s
  version : s.schemaVersion = schemaVersion
  storyCount : s.storyCount = (filledLines records).length
  kinds : ∀ kind count, (kind, count) ∈ s.kinds ↔
    kind ∈ held.map StoryRecord.kind ∧ count = (held.map StoryRecord.kind).count kind

/-! ## Faults of versions -/

/-- A fault of a version is no error: there is none, or the version is not stated and the validation
is lenient. -/
def Tolerated (strict : Bool) (fault : Option VersionFault) : Prop :=
  fault = none ∨ strict = false ∧ fault = some .missing

/-- The report of a version raises no error exactly when its fault is tolerated. -/
theorem errors_versionReport_iff {strict : Bool} {artifact : String} {path : Text}
    {line : Option Nat} {fault : Option VersionFault} :
    (versionReport strict artifact path line fault).errors = [] ↔ Tolerated strict fault := by
  cases fault with
  | none => exact iff_of_true rfl (.inl rfl)
  | some fault =>
      cases fault with
      | missing => cases strict <;> simp [versionReport, Tolerated, Report.error, Report.warning]
      | different found => simp [versionReport, Tolerated, Report.error]

/-- A version is reported missing exactly when the table does not name it. -/
theorem versionFault?_eq_missing_iff {data : List (Text × Datum)} {version : Int} :
    versionFault? (.table data) version = some .missing ↔
      Datum.get? "schema_version" data = none := by
  rw [versionFault?]
  cases Datum.get? "schema_version" data with
  | none => simp
  | some value =>
      simp only [Option.isNone_some, Bool.false_eq_true, if_false]
      split <;> simp

/-- The version of a record is another one exactly when this is its fault. -/
theorem exists_versionFault?_eq_different_iff {data : List (Text × Datum)} {r : StoryRecord}
    (h : StoryRecord.ofDatum (.table data) = .ok r) :
    (∃ found, versionFault? (.table data) r.schemaVersion = some (.different found)) ↔
      r.schemaVersion ≠ schemaVersion := by
  rw [versionFault?]
  cases hget : Datum.get? "schema_version" data with
  | none => simp [r.schemaVersion_of_get?_eq_none h hget]
  | some value =>
      simp only [Option.isNone_some, Bool.false_eq_true, if_false]
      split
      · rename_i hne
        exact iff_of_true ⟨_, rfl⟩ hne
      · rename_i heq
        exact iff_of_false (by simp) heq

/-- The fault of the version of a line. -/
def LineContent.fault? : LineContent → Option VersionFault
  | .record datum r => versionFault? datum r.schemaVersion
  | _ => none

/-- There is nothing against a line, unless it is its version. -/
def LineContent.Clear : LineContent → Prop
  | .blank => True
  | .invalid => False
  | .unfit _ => False
  | .record _ r => 1 ≤ r.line ∧ 1 ≤ r.column ∧ r.storyId = r.expectedId

/-- The first fault of a version on lines. -/
def firstFault? (lines : List Bytes) : Option VersionFault :=
  lines.findSome? fun line => (readLine line).fault?

/-! ## One line -/

theorem filled_of_mem {content line : Bytes} (h : line ∈ filledLines content) :
    line.all isBlankByte = false := by
  simpa using (List.mem_filter.mp h).2

/-- A line with something on it is read as a record exactly when it fits the schema. -/
theorem readLine_eq_record_iff {line : Bytes} (hfilled : line.all isBlankByte = false)
    {data : List (Text × Datum)} {r : StoryRecord} :
    readLine line = .record (.table data) r ↔ ReadsAs line data r := by
  rw [readLine, if_neg (by simp [hfilled]), ReadsAs]
  constructor
  · intro h
    split at h
    · cases h
    · rename_i datum hread
      split at h
      · cases h
      · rename_i found hschema
        cases h
        exact ⟨hread, hschema⟩
  · rintro ⟨hread, hschema⟩
    simp only [hread, hschema]

/-- Only a table is read as a record. -/
theorem exists_readsAs_of_readLine {line : Bytes} (hfilled : line.all isBlankByte = false)
    {datum : Datum} {r : StoryRecord} (h : readLine line = .record datum r) :
    ∃ data, datum = .table data ∧ ReadsAs line data r := by
  have hschema : StoryRecord.ofDatum datum = .ok r := by
    rw [readLine, if_neg (by simp [hfilled])] at h
    split at h
    · cases h
    · split at h
      · cases h
      · cases h
        assumption
  obtain ⟨data, rfl⟩ := StoryRecord.exists_table_of_ofDatum hschema
  exact ⟨data, rfl, (readLine_eq_record_iff hfilled).mp h⟩

/-- Only a record has a fault of its version. -/
theorem exists_readsAs_of_fault? {line : Bytes} (hfilled : line.all isBlankByte = false)
    {fault : VersionFault} (h : (readLine line).fault? = some fault) :
    ∃ data r, ReadsAs line data r ∧ versionFault? (.table data) r.schemaVersion = some fault := by
  cases hread : readLine line with
  | blank | invalid | unfit issues =>
      rw [hread] at h
      cases h
  | record datum r =>
      rw [hread] at h
      obtain ⟨data, rfl, hreads⟩ := exists_readsAs_of_readLine hfilled hread
      exact ⟨data, r, hreads, h⟩

/-- A line without a version is one whose reading finds the version missing. -/
theorem unversioned_iff {line : Bytes} (hfilled : line.all isBlankByte = false) :
    Unversioned line ↔ (readLine line).fault? = some .missing := by
  constructor
  · rintro ⟨data, r, hreads, hnone⟩
    rw [(readLine_eq_record_iff hfilled).mpr hreads]
    exact versionFault?_eq_missing_iff.mpr hnone
  · intro h
    obtain ⟨data, r, hreads, hfault⟩ := exists_readsAs_of_fault? hfilled h
    exact ⟨data, r, hreads, versionFault?_eq_missing_iff.mp hfault⟩

/-- A line of another version is one whose reading finds the version different. -/
theorem ofOtherVersion_iff {line : Bytes} (hfilled : line.all isBlankByte = false) :
    OfOtherVersion line ↔ ∃ found, (readLine line).fault? = some (.different found) := by
  constructor
  · rintro ⟨data, r, hreads, hne⟩
    rw [(readLine_eq_record_iff hfilled).mpr hreads]
    exact (exists_versionFault?_eq_different_iff hreads.2).mpr hne
  · rintro ⟨found, h⟩
    obtain ⟨data, r, hreads, hfault⟩ := exists_readsAs_of_fault? hfilled h
    exact ⟨data, r, hreads, (exists_versionFault?_eq_different_iff hreads.2).mp ⟨found, hfault⟩⟩

/-- There is nothing against a line with something on it, but for its version, exactly when it holds
a record of some version, which is then the one read. -/
theorem holdsAnyVersion_iff {line : Bytes} (hfilled : line.all isBlankByte = false)
    {r : StoryRecord} :
    HoldsAnyVersion line r ↔ (readLine line).Clear ∧ (readLine line).records = [r] := by
  constructor
  · rintro ⟨⟨data, hreads⟩, hline, hcolumn, hid⟩
    rw [(readLine_eq_record_iff hfilled).mpr hreads]
    exact ⟨⟨hline, hcolumn, hid⟩, rfl⟩
  · rintro ⟨hclear, hrecords⟩
    cases hread : readLine line with
    | blank | invalid | unfit issues =>
        rw [hread] at hrecords
        cases hrecords
    | record datum found =>
        rw [hread] at hclear hrecords
        obtain rfl : found = r := List.singleton_inj.mp hrecords
        obtain ⟨data, rfl, hreads⟩ := exists_readsAs_of_readLine hfilled hread
        exact ⟨⟨data, hreads⟩, hclear.1, hclear.2.1, hclear.2.2⟩

/-! ## One step -/

/-- A step adds no error exactly when there is nothing against the line but its version, and this is
tolerated or not looked at any more. -/
theorem Reading.errors_step_iff {strict : Bool} {path : Text} {reading : Reading} {number : Nat}
    {content : LineContent} :
    (reading.step strict path number content).report.errors = [] ↔
      reading.report.errors = [] ∧ content.Clear ∧
        (reading.versionReported = false → Tolerated strict content.fault?) := by
  cases content with
  | blank => simp [Reading.step, LineContent.Clear, LineContent.fault?, Tolerated]
  | invalid => simp [Reading.step, LineContent.Clear, Report.errors_append, Report.error]
  | unfit issues => simp [Reading.step, LineContent.Clear, Report.errors_append, Report.error]
  | record datum r =>
      simp only [Reading.step, Report.errors_append, List.append_eq_nil_iff,
        errors_versionReport_iff, errors_recordReport_iff, LineContent.Clear, LineContent.fault?]
      cases reading.versionReported with
      | false =>
          simp only [Bool.false_eq_true, if_false, forall_const]
          constructor
          · rintro ⟨⟨hbefore, hfault⟩, hclear⟩
            exact ⟨hbefore, hclear, hfault⟩
          · rintro ⟨hbefore, hclear, hfault⟩
            exact ⟨⟨hbefore, hfault⟩, hclear⟩
      | true => simp [Tolerated]

/-- A step has reported a version if one was reported before or its line has a fault. -/
theorem Reading.versionReported_step (strict : Bool) (path : Text) (reading : Reading)
    (number : Nat) (content : LineContent) :
    (reading.step strict path number content).versionReported =
      (reading.versionReported || content.fault?.isSome) := by
  cases content with
  | blank | invalid | unfit issues =>
      simp [Reading.step, LineContent.fault?]
  | record datum r =>
      simp only [Reading.step, LineContent.fault?]
      cases reading.versionReported <;> rfl

/-- A line that is clear adds its record, and the reading stays complete. -/
theorem Reading.records_step (strict : Bool) (path : Text) (reading : Reading) (number : Nat)
    {content : LineContent} (h : content.Clear) :
    (reading.step strict path number content).records = reading.records ++ content.records ∧
      (reading.step strict path number content).complete = reading.complete := by
  cases content with
  | blank => exact ⟨(List.append_nil _).symm, rfl⟩
  | invalid => exact h.elim
  | unfit issues => exact h.elim
  | record datum r => exact ⟨rfl, rfl⟩

/-! ## All lines -/

/-- The first fault of some lines is that of the first line, or else of the others. -/
theorem firstFault?_cons (line : Bytes) (rest : List Bytes) :
    firstFault? (line :: rest) = (readLine line).fault?.or (firstFault? rest) := by
  rw [firstFault?, List.findSome?_cons]
  cases (readLine line).fault? <;> rfl

/-- Reading lines finds no error exactly when no line has one but for its version, and the first
fault of a version is tolerated. -/
theorem errors_readLines_iff {strict : Bool} {path : Text} {lines : List Bytes} {reading : Reading}
    {number : Nat} :
    (readLines strict path reading number lines).report.errors = [] ↔
      reading.report.errors = [] ∧ (∀ line ∈ lines, (readLine line).Clear) ∧
        (reading.versionReported = false → Tolerated strict (firstFault? lines)) := by
  induction lines generalizing reading number with
  | nil => simp [readLines, firstFault?, Tolerated]
  | cons line rest ih =>
      rw [readLines, ih, Reading.errors_step_iff, Reading.versionReported_step,
        List.forall_mem_cons, firstFault?_cons]
      -- behind a fault the flag is set, and the versions of the rest do not count
      cases hreported : reading.versionReported with
      | true => simp [and_assoc]
      | false =>
          cases hfault : (readLine line).fault? with
          | none => simp [Tolerated, and_assoc]
          | some fault => simp [and_assoc, and_comm]

/-- Lines without an error add their records in order and leave the reading complete. -/
theorem records_readLines {strict : Bool} {path : Text} {lines : List Bytes}
    (h : ∀ line ∈ lines, (readLine line).Clear) (reading : Reading) (number : Nat) :
    (readLines strict path reading number lines).records =
        reading.records ++ lines.flatMap (fun line => (readLine line).records) ∧
      (readLines strict path reading number lines).complete = reading.complete := by
  induction lines generalizing reading number with
  | nil => exact ⟨(List.append_nil _).symm, rfl⟩
  | cons line rest ih =>
      obtain ⟨hline, hrest⟩ := List.forall_mem_cons.mp h
      obtain ⟨hrecords, hcomplete⟩ := reading.records_step strict path number hline
      obtain ⟨hmore, hstays⟩ :=
        ih hrest (reading.step strict path number (readLine line)) (number + 1)
      rw [readLines, hmore, hstays, hrecords, hcomplete, List.flatMap_cons, List.append_assoc]
      exact ⟨rfl, rfl⟩

/-- Blank lines have no version. -/
theorem firstFault?_filledLines (content : Bytes) :
    firstFault? (filledLines content) = firstFault? (lines content) := by
  rw [filledLines]
  induction lines content with
  | nil => rfl
  | cons line rest ih =>
      cases hblank : line.all isBlankByte with
      | true =>
          have hread : readLine line = .blank := by rw [readLine, if_pos hblank]
          rw [List.filter_cons_of_neg (by simp [hblank]), ih, firstFault?_cons, hread]
          rfl
      | false =>
          rw [List.filter_cons_of_pos (by simp [hblank]), firstFault?_cons, firstFault?_cons, ih]

/-- The records are read without an error exactly when each filled line holds one and the first
fault of a version is tolerated, and then those are the records read. -/
theorem readRecords_iff (strict : Bool) (path : Text) (content : Bytes) :
    ((readRecords strict path content).report.errors = [] ↔
        Tolerated strict (firstFault? (filledLines content)) ∧
          ∃ held, List.Forall₂ HoldsAnyVersion (filledLines content) held) ∧
      ∀ held, List.Forall₂ HoldsAnyVersion (filledLines content) held →
        (readRecords strict path content).records = held ∧
          (readRecords strict path content).complete = true := by
  have hheld : ∀ held, List.Forall₂ HoldsAnyVersion (filledLines content) held ↔
      (∀ line ∈ lines content, (readLine line).Clear) ∧
        held = (lines content).flatMap fun line => (readLine line).records := fun held =>
    forall₂_filled_iff trivial not_false (fun _ => not_false)
      fun hfilled => holdsAnyVersion_iff hfilled
  simp only [hheld]
  refine ⟨?_, ?_⟩
  · rw [readRecords, errors_readLines_iff, firstFault?_filledLines]
    constructor
    · rintro ⟨_, hclear, hversion⟩
      exact ⟨hversion rfl, _, hclear, rfl⟩
    · rintro ⟨hversion, _, hclear, _⟩
      exact ⟨rfl, hclear, fun _ => hversion⟩
  · rintro held ⟨hclear, rfl⟩
    exact records_readLines hclear ⟨.empty, [], true, false⟩ 1

/-! ## Both files -/

/-- In lenient validation a summary that fits the schema is read, and without an error exactly when
its version is not another one. -/
theorem readSummary_lenient (path : Text) {content : Bytes} {data : List (Text × Datum)}
    {s : Summary} (hread : Json.read content = some (.table data))
    (hschema : Summary.ofDatum (.table data) = .ok s) :
    (readSummary false path content).2 = some s ∧
      ((readSummary false path content).1.errors = [] ↔ s.schemaVersion = schemaVersion) := by
  rw [readSummary, hread]
  simp only [hschema, true_and]
  rw [errors_versionReport_iff, versionFault?]
  cases hget : Datum.get? "schema_version" data with
  | none => simp [Tolerated, s.schemaVersion_of_get?_eq_none hschema hget]
  | some value => simp [Tolerated]

/-- Without an error only a summary that fits the schema is read. -/
theorem exists_of_errors_readSummary {strict : Bool} {path : Text} {content : Bytes}
    (h : (readSummary strict path content).1.errors = []) :
    ∃ data s, Json.read content = some (.table data) ∧ Summary.ofDatum (.table data) = .ok s := by
  rw [readSummary] at h
  split at h
  · simp [Report.error] at h
  · rename_i data hread
    split at h
    · simp [Report.error] at h
    · rename_i s hschema
      exact ⟨data, s, hread, hschema⟩
  · simp [Report.error] at h

/-- Lenient validation of the content of both files finds no error exactly when the first fault of a
version of a record, if there is one, is that it is not stated, and the files are consistent but for
the versions of the records. -/
theorem errors_validateContents_lenient_iff {recordsPath summaryPath : Text}
    {records summary : Bytes} :
    (validateContents false recordsPath summaryPath records summary).errors = [] ↔
      Tolerated false (firstFault? (filledLines records)) ∧
        ∃ held s, ConsistentAnyVersion records summary held s := by
  obtain ⟨hrecords, hheldRead⟩ := readRecords_iff false recordsPath records
  rw [validateContents, Report.errors_append, Report.errors_append, List.append_eq_nil_iff,
    List.append_eq_nil_iff, hrecords]
  constructor
  · rintro ⟨⟨⟨hversions, held, hheld⟩, hsummary⟩, htotals⟩
    obtain ⟨data, s, hread, hschema⟩ := exists_of_errors_readSummary hsummary
    obtain ⟨hfound, hversion⟩ := readSummary_lenient summaryPath hread hschema
    obtain ⟨hsame, hcomplete⟩ := hheldRead held hheld
    simp only [hfound, hcomplete, hsame] at htotals
    rw [errors_totalsReport_iff_of_read hread hschema, ← hheld.length_eq] at htotals
    exact ⟨hversions, held, s, hheld, ⟨data, hread, hschema⟩, hversion.mp hsummary, htotals.1,
      htotals.2⟩
  · rintro ⟨hversions, held, s, h⟩
    obtain ⟨data, hread, hschema⟩ := h.read
    obtain ⟨hfound, hversion⟩ := readSummary_lenient summaryPath hread hschema
    obtain ⟨hsame, hcomplete⟩ := hheldRead held h.eachLine
    refine ⟨⟨⟨hversions, held, h.eachLine⟩, hversion.mpr h.version⟩, ?_⟩
    simp only [hfound, hcomplete, hsame]
    rw [errors_totalsReport_iff_of_read hread hschema, ← h.eachLine.length_eq]
    exact ⟨h.storyCount, h.kinds⟩

/-- Some line has no version and no line before it has another one, exactly when a version that is
not stated is the first fault. -/
theorem firstFault?_eq_missing_iff {content : Bytes} :
    firstFault? (filledLines content) = some .missing ↔
      ∃ before line after, filledLines content = before ++ line :: after ∧ Unversioned line ∧
        ∀ earlier ∈ before, ¬OfOtherVersion earlier := by
  have hfilled : ∀ line ∈ filledLines content, line.all isBlankByte = false :=
    fun line => filled_of_mem
  constructor
  · intro h
    obtain ⟨before, line, after, hlines, hfault, hbefore⟩ := List.findSome?_eq_some_iff.mp h
    rw [hlines] at hfilled
    refine ⟨before, line, after, hlines, ?_, ?_⟩
    · exact (unversioned_iff (hfilled line (by simp))).mpr hfault
    · intro earlier hearlier hother
      obtain ⟨found, hfound⟩ :=
        (ofOtherVersion_iff (hfilled earlier (by simp [hearlier]))).mp hother
      rw [hbefore earlier hearlier] at hfound
      cases hfound
  · rintro ⟨before, line, after, hlines, hline, hbefore⟩
    rw [hlines] at hfilled ⊢
    rw [unversioned_iff (hfilled line (by simp))] at hline
    rw [firstFault?, List.findSome?_append, List.findSome?_cons, hline]
    cases hfirst : before.findSome? fun line => (readLine line).fault? with
    | none => rfl
    | some fault =>
        -- what comes first may stand earlier still, but it is the same fault
        obtain ⟨earlier, hearlier, hfault⟩ := List.exists_of_findSome?_eq_some hfirst
        cases fault with
        | missing => rfl
        | different found =>
            exact absurd ((ofOtherVersion_iff (hfilled earlier (by simp [hearlier]))).mpr
              ⟨found, hfault⟩) (hbefore earlier hearlier)

/-- Another version on some line is a fault. -/
theorem firstFault?_ne_none {content : Bytes}
    (h : ∃ line ∈ filledLines content, OfOtherVersion line) :
    firstFault? (filledLines content) ≠ none := by
  obtain ⟨line, hline, hother⟩ := h
  obtain ⟨found, hfault⟩ := (ofOtherVersion_iff (filled_of_mem hline)).mp hother
  intro hnone
  rw [List.findSome?_eq_none_iff.mp hnone line hline] at hfault
  cases hfault

/-- With another version on some line, strict validation finds an error. -/
theorem errors_validateContents_strict_ne_nil {records : Bytes}
    (h : ∃ line ∈ filledLines records, OfOtherVersion line) (recordsPath summaryPath : Text)
    (summary : Bytes) :
    (validateContents true recordsPath summaryPath records summary).errors ≠ [] := by
  intro hnil
  rw [validateContents, Report.errors_append, Report.errors_append, List.append_eq_nil_iff,
    List.append_eq_nil_iff] at hnil
  obtain ⟨hnone | ⟨hlenient, _⟩, _⟩ := (readRecords_iff true recordsPath records).1.mp hnil.1.1
  · exact firstFault?_ne_none h hnone
  · cases hlenient

end Validation

namespace Disk

/-- A validation is without an error exactly when there is a directory with both files and nothing
is found against their content. -/
theorem ok_validate_iff (strict : Bool) (disk : Disk) (path : Path) :
    (disk.validate strict path).ok = true ↔
      disk.node? path = some .directory ∧
        ∃ records summary, disk.content? (path.child storiesFile) = some records ∧
          disk.content? (path.child summaryFile) = some summary ∧
          (Validation.validateContents strict (path.child storiesFile).toText
            (path.child summaryFile).toText records summary).errors = [] := by
  rw [Report.ok_iff, validate, artifactsAt]
  split
  · rename_i hnode
    exact iff_of_false (by simp [Validation.validate, Report.error]) (by simp [hnode])
  · rename_i hnode
    cases hrecords : disk.content? (path.child storiesFile) with
    | none =>
        simp [Validation.validate, Report.error, Report.errors_append]
    | some records =>
        cases hsummary : disk.content? (path.child summaryFile) with
        | none => simp [Validation.validate, Report.error, Report.errors_append]
        | some summary => simp [Validation.validate, hnode]
  · rename_i node hother hnode
    refine iff_of_false (by simp [Validation.validate, Report.error]) ?_
    rintro ⟨hdirectory, _⟩
    rw [hdirectory] at hnode
    exact hother (Option.some.inj hnode).symm

/-- When some line of the records fits the schema and has another schema version, a validation finds
an error, with one exception: it is lenient, a line without a version stands before every line of
another version, and nothing else is wrong with the files. Then it finds none. -/
theorem ok_validate_of_otherVersion_iff (strict : Bool) (disk : Disk) (path : Path)
    {records : Bytes} (hrecords : disk.content? (path.child storiesFile) = some records)
    (hother : ∃ line ∈ Validation.filledLines records, Validation.OfOtherVersion line) :
    (disk.validate strict path).ok = true ↔
      strict = false ∧
        (∃ before line after, Validation.filledLines records = before ++ line :: after ∧
          Validation.Unversioned line ∧
          ∀ earlier ∈ before, ¬Validation.OfOtherVersion earlier) ∧
        disk.node? path = some .directory ∧
        ∃ summary, disk.content? (path.child summaryFile) = some summary ∧
          ∃ held s, Validation.ConsistentAnyVersion records summary held s := by
  rw [ok_validate_iff]
  cases strict with
  | true =>
      refine iff_of_false ?_ (by simp)
      rintro ⟨_, found, summary, hfound, _, herrors⟩
      obtain rfl : records = found := Option.some.inj (hrecords.symm.trans hfound)
      exact Validation.errors_validateContents_strict_ne_nil hother _ _ summary herrors
  | false =>
      rw [← Validation.firstFault?_eq_missing_iff]
      simp only [Validation.errors_validateContents_lenient_iff, true_and]
      constructor
      · rintro ⟨hnode, found, summary, hfound, hsummary, hversions, hheld⟩
        obtain rfl : records = found := Option.some.inj (hrecords.symm.trans hfound)
        have hmissing := hversions.resolve_left (Validation.firstFault?_ne_none hother)
        exact ⟨hmissing.2, hnode, summary, hsummary, hheld⟩
      · rintro ⟨hmissing, hnode, summary, hsummary, hheld⟩
        exact ⟨hnode, records, summary, hrecords, hsummary, .inr ⟨rfl, hmissing⟩, hheld⟩

end Disk

/-! Artifacts where a record without a version stands before a record of another one. -/

namespace UnversionedFirst

def first : StoryRecord :=
  ⟨schemaVersion, "story:a.js@L1:C1:A/x", "a.js", "A", "x", 1, 1⟩

def second : StoryRecord :=
  ⟨2, "story:b.js@L1:C1:A/x", "b.js", "A", "x", 1, 1⟩

def records : Bytes :=
  (Json.writeLines [.table (first.fields.drop 1), second.toDatum]).1.utf8

def summary : Bytes :=
  ((Json.write (Summary.toDatum ⟨schemaVersion, 2, 2, [("A", 2)], []⟩)).toOption.getD []).utf8

def directory : Path := ⟨.top, ["art"]⟩

def disk : Disk where
  entries :=
    [(["art"], .directory), (["art", storiesFile], .file records),
      (["art", summaryFile], .file summary)]
  distinct := by decide

/-- The second line is of another version. -/
theorem exists_ofOtherVersion :
    ∃ line ∈ Validation.filledLines records, Validation.OfOtherVersion line := by
  obtain ⟨line, hline, hfault⟩ : ∃ line ∈ Validation.filledLines records,
      (Validation.readLine line).fault? = some (.different 2) := by decide +kernel
  have hfilled := Validation.filled_of_mem hline
  exact ⟨line, hline, (Validation.ofOtherVersion_iff hfilled).mpr ⟨2, hfault⟩⟩

/-- Lenient validation finds no error, although there is a record of another version. -/
theorem errors_validate_lenient :
    (∃ line ∈ Validation.filledLines records, Validation.OfOtherVersion line) ∧
      (disk.validate false directory).errors = [] :=
  ⟨exists_ofOtherVersion, by decide +kernel⟩

/-- Strict validation finds one. -/
theorem validate_strict_not_ok :
    disk.content? (directory.child storiesFile) = some records ∧
      (disk.validate true directory).ok = false := by
  have hiff := Disk.ok_validate_of_otherVersion_iff true disk directory rfl exists_ofOtherVersion
  refine ⟨rfl, Bool.eq_false_iff.mpr ?_⟩
  intro hok
  cases (hiff.mp hok).1

end UnversionedFirst

end StoryCatalog

import StoryCatalog.Proofs.Contract.Consistency
import StoryCatalog.Proofs.Text.LowerCase
import StoryCatalog.Proofs.Text.Utf8
import StoryCatalog.Proofs.Toml.Stops
import StoryCatalog.Settings.Basic

/-!
# What loading settings gives

Settings that are loaded are usable, whatever the file holds. A file that is not accepted is found
to be no TOML or unfit, with three exceptions that say nothing of settings: its bytes are no text,
an integer in it has too many digits, or values in it stand too deep within each other
(`load_cases`).
-/

namespace StoryCatalog

open Schema

/-! ## Fields -/

/-- A field that may be absent holds its default or a value that passed its check. -/
theorem Schema.eq_or_of_optional_eq_ok {α : Type} {data : List (Text × Datum)} {name : Text}
    {default value : α} {check : Datum → Checked α}
    (h : optional data name default check = .ok value) :
    value = default ∨ ∃ datum, check datum = .ok value := by
  unfold optional at h
  split at h
  · rename_i datum _
    exact .inr ⟨datum, Checked.eq_ok_of_under_eq_ok h⟩
  · cases h
    exact .inl rfl

/-- The check for texts that are not empty lets no empty one through. -/
theorem Schema.ne_nil_of_nonEmptyText {datum : Datum} {t : Text}
    (h : nonEmptyText datum = .ok t) : t ≠ [] := by
  unfold nonEmptyText at h
  split at h
  · split at h
    · cases h
    · rename_i hempty
      cases h
      rintro rfl
      exact hempty rfl
  · cases h

/-- A backend is found again under the name it is written with. -/
theorem Backend.ofName?_name (backend : Backend) :
    Backend.ofName? backend.name = some backend := by
  cases backend with
  | concrete => decide
  | strict => decide

namespace Settings

/-! ## Suffixes -/

/-- The text is a suffix of files: it has a point at its front, and no capital letter. -/
structure IsSuffix (t : Text) : Prop where
  dotted : t.head? = some 0x2E
  small : t.toLower = t

/-- What follows a leading dot, put in lower case, is still a suffix. -/
theorem isSuffix_toLower (rest : Text) : IsSuffix (Text.toLower (0x2E :: rest)) where
  dotted := rfl
  small := Text.toLower_toLower _

/-- An extension that is accepted is a suffix. -/
theorem isSuffix_of_suffix? {value : Datum} {t : Text} (h : suffix? value = some t) :
    IsSuffix t := by
  unfold suffix? at h
  split at h
  · cases h
    exact isSuffix_toLower _
  · cases h

/-- The extensions a repository is searched for by default are suffixes. -/
theorem isSuffix_of_standard {t : Text} (h : t ∈ standardExtensions) : IsSuffix t := by
  have hall : ∀ t ∈ standardExtensions, t.head? = some 0x2E ∧ t.toLower = t := by decide +kernel
  exact ⟨(hall t h).1, (hall t h).2⟩

/-- A list of extensions that is accepted holds suffixes alone. -/
theorem isSuffix_of_suffixes {items : List Datum} {found : List Text}
    (h : suffixes items = .ok found) : ∀ t ∈ found, IsSuffix t := by
  induction items generalizing found with
  | nil =>
      cases h
      exact fun _ hmem => absurd hmem List.not_mem_nil
  | cons value rest ih =>
      rw [suffixes] at h
      cases hvalue : suffix? value with
      | none =>
          rw [hvalue] at h
          cases h
      | some suffix =>
          rw [hvalue] at h
          obtain ⟨more, hmore, rfl⟩ := Checked.exists_of_map_eq_ok h
          exact List.forall_mem_cons.mpr ⟨isSuffix_of_suffix? hvalue, ih hmore⟩

/-- The `extensions` field, when it is accepted, gives suffixes alone. -/
theorem isSuffix_of_extensionsOf {value : Datum} {found : List Text}
    (h : extensionsOf value = .ok found) : ∀ t ∈ found, IsSuffix t := by
  unfold extensionsOf at h
  split at h
  · cases h
    exact fun _ => isSuffix_of_standard
  · exact isSuffix_of_suffixes h
  · cases h

/-! ## Usable settings -/

/-- The settings can be used: their suffixes are suffixes of files, the names that make a chain are
there, and their reader is found by its name. -/
structure Usable (settings : Settings) : Prop where
  extensions : ∀ t ∈ settings.extensions, IsSuffix t
  group : settings.pattern.group ≠ []
  method : settings.pattern.method ≠ []
  backend : Backend.ofName? settings.backend.name = some settings.backend

/-- The settings used without a settings file are usable ones. -/
theorem usable_standard : standard.Usable where
  extensions := fun _ => isSuffix_of_standard
  group := by decide
  method := by decide
  backend := Backend.ofName?_name _

/-- Names that were read for a chain are there. -/
theorem ne_nil_of_patternOf {value : Datum} {pattern : Pattern}
    (h : patternOf value = .ok pattern) : pattern.group ≠ [] ∧ pattern.method ≠ [] := by
  unfold patternOf record at h
  split at h
  · obtain ⟨f, _, hf, _, rfl⟩ := Checked.exists_of_seq_eq_ok h
    obtain ⟨g, method, hg, hmethod, rfl⟩ := Checked.exists_of_seq_eq_ok hf
    obtain ⟨group, hgroup, rfl⟩ := Checked.exists_of_map_eq_ok hg
    constructor
    · rcases eq_or_of_optional_eq_ok hgroup with rfl | ⟨datum, hdatum⟩
      · exact usable_standard.group
      · exact ne_nil_of_nonEmptyText hdatum
    · rcases eq_or_of_optional_eq_ok hmethod with rfl | ⟨datum, hdatum⟩
      · exact usable_standard.method
      · exact ne_nil_of_nonEmptyText hdatum
  · cases h

/-- The suffixes, the reader and the pattern are each read on their own. -/
theorem fields_of_ofEntries {data : List (Text × Datum)} {settings : Settings}
    (h : ofEntries data = .ok settings) :
    optional data "extensions" standard.extensions extensionsOf = .ok settings.extensions ∧
      optional data "backend" standard.backend backendOf = .ok settings.backend ∧
      optional data "pattern" standard.pattern patternOf = .ok settings.pattern := by
  obtain ⟨f, _, hf, _, rfl⟩ := Checked.exists_of_seq_eq_ok h
  obtain ⟨g, pattern, hg, hpattern, rfl⟩ := Checked.exists_of_seq_eq_ok hf
  obtain ⟨k, backend, hk, hbackend, rfl⟩ := Checked.exists_of_seq_eq_ok hg
  obtain ⟨m, nestedIgnore, hm, _, rfl⟩ := Checked.exists_of_seq_eq_ok hk
  obtain ⟨n, extensions, hn, hextensions, rfl⟩ := Checked.exists_of_seq_eq_ok hm
  obtain ⟨p, excluded, hp, _, rfl⟩ := Checked.exists_of_seq_eq_ok hn
  obtain ⟨q, included, hq, _, rfl⟩ := Checked.exists_of_seq_eq_ok hp
  obtain ⟨outputDir, _, rfl⟩ := Checked.exists_of_map_eq_ok hq
  exact ⟨hextensions, hbackend, hpattern⟩

/-- Whatever a table says, the settings read from it are usable ones. -/
theorem usable_of_ofEntries {data : List (Text × Datum)} {settings : Settings}
    (h : ofEntries data = .ok settings) : settings.Usable := by
  obtain ⟨hextensions, -, hpattern⟩ := fields_of_ofEntries h
  have hsuffixes : ∀ t ∈ settings.extensions, IsSuffix t := by
    rcases eq_or_of_optional_eq_ok hextensions with hdefault | ⟨datum, hdatum⟩
    · rw [hdefault]
      exact usable_standard.extensions
    · exact isSuffix_of_extensionsOf hdatum
  have hnames : settings.pattern.group ≠ [] ∧ settings.pattern.method ≠ [] := by
    rcases eq_or_of_optional_eq_ok hpattern with hdefault | ⟨datum, hdatum⟩
    · rw [hdefault]
      exact ⟨usable_standard.group, usable_standard.method⟩
    · exact ne_nil_of_patternOf hdatum
  exact ⟨hsuffixes, hnames.1, hnames.2, Backend.ofName?_name settings.backend⟩

/-! ## The reader -/

/-- A reader is read from its own name only. -/
theorem backendOf_eq_ok {value : Datum} {backend : Backend} (h : backendOf value = .ok backend) :
    value = .text backend.name := by
  obtain ⟨name, hname, rfl⟩ := Checked.exists_of_map_eq_ok h
  unfold choice at hname
  split at hname
  · rename_i t
    split at hname
    · rename_i word hword
      cases hname
      have htext := List.find?_some hword
      rw [beq_iff_eq] at htext
      rw [← htext]
      rcases List.mem_pair.mp (List.mem_of_find?_eq_some hword) with rfl | rfl
      · rfl
      · rfl
    · cases hname
  · cases hname

/-- The settings have the reader that the file names, if it names one. -/
def HasReaderOf (settings : Settings) (content : Option Bytes) : Prop :=
  ∀ bytes t table value, content = some bytes → Utf8.decode bytes = .ok t →
    Toml.readText t = .ok table → Datum.get? "backend" table = some value →
      value = .text settings.backend.name

/-- A table that names a backend is read only with that backend. -/
theorem backend_of_ofEntries {data : List (Text × Datum)} {settings : Settings} {value : Datum}
    (h : ofEntries data = .ok settings) (hvalue : Datum.get? "backend" data = some value) :
    value = .text settings.backend.name := by
  obtain ⟨-, hbackend, -⟩ := fields_of_ofEntries h
  rw [Schema.optional, hvalue] at hbackend
  exact backendOf_eq_ok (Checked.eq_ok_of_under_eq_ok hbackend)

theorem ofEntries_of_ofDatum {data : List (Text × Datum)} {settings : Settings}
    (h : ofDatum (.table data) = .ok settings) : ofEntries data = .ok settings := by
  unfold ofDatum at h
  dsimp only at h
  split at h
  · cases h
  · split at h
    · rename_i hentries
      cases h
      exact hentries
    · cases h

/-! ## Files -/

/-- The bytes of a file interrupt the loading of settings: they are no text, or the text has too
many digits in a row, or its brackets open too many values. -/
inductive Interrupts (bytes : Bytes) : LoadError → Prop where
  | undecodable {error : Utf8.IllFormed} :
      Utf8.decode bytes = .error error → Interrupts bytes (.undecodable error)
  | tooLong {t : Text} {digits : Nat} :
      Utf8.decode bytes = .ok t → Toml.LongInteger t digits → Interrupts bytes (.tooLong digits)
  | tooDeep {t : Text} :
      Utf8.decode bytes = .ok t → Toml.DeepNesting t → Interrupts bytes .tooDeep

/-- All that loading settings can give: usable settings with the reader that the file names, an
error about the file at the path, or an interruption by its bytes. -/
theorem load_cases (path : Text) (content : Option Bytes) :
    (∃ settings, load path content = .ok settings ∧ settings.Usable ∧
        settings.HasReaderOf content) ∨
      (∃ message, load path content = .error (.malformed path message)) ∨
      (∃ fault, load path content = .error (.unfit path fault)) ∨
      ∃ bytes e, content = some bytes ∧ load path content = .error e ∧ Interrupts bytes e := by
  cases content with
  | none => exact .inl ⟨standard, rfl, usable_standard, nofun⟩
  | some bytes =>
      unfold load
      dsimp only
      cases hdecode : Utf8.decode bytes with
      | error e => exact .inr (.inr (.inr ⟨bytes, _, rfl, rfl, .undecodable hdecode⟩))
      | ok t =>
          dsimp only
          cases hread : Toml.readText t with
          | error stop =>
              cases stop with
              | malformed message => exact .inr (.inl ⟨message, rfl⟩)
              | tooLong digits =>
                  have hlong := Toml.longInteger_of_readText hread
                  exact .inr (.inr (.inr ⟨bytes, _, rfl, rfl, .tooLong hdecode hlong⟩))
              | tooDeep =>
                  have hdeep := Toml.deepNesting_of_readText hread
                  exact .inr (.inr (.inr ⟨bytes, _, rfl, rfl, .tooDeep hdecode hdeep⟩))
          | ok table =>
              dsimp only
              cases hdatum : ofDatum (.table table) with
              | error fault => exact .inr (.inr (.inl ⟨fault, rfl⟩))
              | ok settings =>
                  have hentries := ofEntries_of_ofDatum hdatum
                  refine .inl ⟨settings, rfl, usable_of_ofEntries hentries, ?_⟩
                  rintro _ _ _ value ⟨⟩ hdecode' hread' hvalue
                  cases hdecode.symm.trans hdecode'
                  cases hread.symm.trans hread'
                  exact backend_of_ofEntries hentries hvalue

/-- Brackets that are not closed interrupt the loading when there are enough of them. -/
theorem load_unclosed (path : Text) {count : Nat} (h : Datum.mostCalls ≤ 2 * count) :
    load path (some (Toml.unclosed count).utf8) = .error .tooDeep := by
  have hscalar : (Toml.unclosed count).isScalar = true := by
    simp only [Toml.unclosed, Text.isScalar, List.all_cons, List.all_replicate]
    split
    · decide
    · decide
  simp only [load, Utf8.decode_utf8 hscalar, Toml.readText_unclosed h]

end Settings

end StoryCatalog

import StoryCatalog.Proofs.Json.RoundTrip

/-!
# Which data can be written

A datum can be written when each of its parts can: a text that holds no surrogate
(`canWrite_text_iff`), an integer that fits into a word (`canWrite_integer_iff`), and a list or a
table that is not nested too deep (`canWrite_list_iff`, `canWrite_table_iff`). Lines are written
without a fault when each datum can be written (`writeLines_eq_none_iff`).
-/

namespace StoryCatalog

namespace Json

variable {layout : Layout} {depth : Nat}

/-- A datum inside this many lists and tables can be written. -/
def CanWrite (layout : Layout) (depth : Nat) (d : Datum) : Prop :=
  ∃ t, writeAt layout depth d = .ok t

@[simp]
theorem canWrite_null : CanWrite layout depth .null :=
  ⟨_, rfl⟩

/-- An integer can be written exactly when it fits into sixty-four bits. -/
@[simp]
theorem canWrite_integer_iff {n : Int} :
    CanWrite layout depth (.integer n) ↔ fitsWord n = true := by
  unfold CanWrite
  rw [writeAt, integer]
  split
  · rename_i hfits
    exact iff_of_true ⟨_, rfl⟩ hfits
  · rename_i hfits
    refine iff_of_false ?_ hfits
    rintro ⟨_, ⟨⟩⟩

theorem exists_string_eq_ok_iff {t : Text} :
    (∃ written, string t = .ok written) ↔ t.isScalar = true := by
  constructor
  · rintro ⟨written, hwritten⟩
    exact (eq_of_string_eq_ok hwritten).1
  · intro hscalar
    exact ⟨_, if_pos hscalar⟩

/-- A text can be written exactly when it holds no surrogate. -/
@[simp]
theorem canWrite_text_iff {t : Text} : CanWrite layout depth (.text t) ↔ t.isScalar = true := by
  unfold CanWrite
  rw [writeAt]
  exact exists_string_eq_ok_iff

/-! ## Lists and tables -/

theorem writeItems_eq (layout : Layout) (depth : Nat) (items : List Datum) :
    writeAt.writeItems layout depth items = items.mapM (writeAt layout depth) := by
  induction items with
  | nil => rfl
  | cons item rest ih =>
      rw [writeAt.writeItems, ih, List.mapM_cons]

/-- A list can be written exactly when it is not too deep and its items can be. -/
theorem canWrite_list_iff {items : List Datum} :
    CanWrite layout depth (.list items) ↔
      depth < deepest ∧ ∀ item ∈ items, CanWrite layout (depth + 1) item := by
  constructor
  · rintro ⟨t, ht⟩
    obtain ⟨hdepth, texts, htexts, -⟩ := writeAt_list ht
    rw [writeItems_eq] at htexts
    exact ⟨hdepth, fun item hitem => exists_of_mapM_eq_ok htexts hitem⟩
  · rintro ⟨hdepth, hitems⟩
    obtain ⟨texts, htexts⟩ := exists_mapM_eq_ok hitems
    refine ⟨layout.enclose depth 0x5B 0x5D texts, ?_⟩
    rw [writeAt, if_neg (by omega), writeItems_eq, htexts]
    rfl

/-- When all names can be written, the entries are written one after the other in the order of the
names. -/
theorem entries_eq_mapM {layout : Layout} {written : List (Text × Except WriteError Text)}
    (h : ∀ entry ∈ written, entry.1.isScalar = true) :
    layout.entries written = (sortByName written).mapM fun entry => do
      return 0x22 :: entry.1.flatMap escaped ++ [0x22] ++ layout.colon ++ (← entry.2) := by
  have hnamed : (written.mapM fun entry => do
      return (entry.1, ← string entry.1, entry.2) : Except WriteError _) =
        .ok (written.map fun entry =>
          (entry.1, (0x22 :: entry.1.flatMap escaped ++ [0x22], entry.2))) := by
    refine mapM_eq_ok_map fun entry hentry => ?_
    have hkey : string entry.1 = .ok (0x22 :: entry.1.flatMap escaped ++ [0x22]) :=
      if_pos (h entry hentry)
    rw [hkey]
    rfl
  calc layout.entries written
    _ = (written.mapM fun entry => do
          return (entry.1, ← string entry.1, entry.2) : Except WriteError _) >>= fun named =>
        (sortByName named).mapM fun item => do
          return item.2.1 ++ layout.colon ++ (← item.2.2) := rfl
    _ = (sortByName written).mapM fun entry => do
          return 0x22 :: entry.1.flatMap escaped ++ [0x22] ++ layout.colon ++ (← entry.2) := by
        rw [hnamed]
        dsimp only [bind, Except.bind]
        rw [sortByName_map, List.mapM_map]
        rfl

/-- The entries of a table can be written when all names and all data can. -/
theorem exists_entries_eq_ok_iff {written : List (Text × Except WriteError Text)} :
    (∃ texts, layout.entries written = .ok texts) ↔
      ∀ entry ∈ written, entry.1.isScalar = true ∧ ∃ value, entry.2 = .ok value := by
  constructor
  · rintro ⟨texts, htexts⟩ entry hentry
    obtain ⟨_, _, key, value, hkey, hvalue, _⟩ := exists_of_forall₂_of_mem
      (forall₂_entries htexts).flip ((sortByName_perm written).mem_iff.mpr hentry)
    exact ⟨(eq_of_string_eq_ok hkey).1, value, hvalue⟩
  · intro h
    rw [entries_eq_mapM fun entry hentry => (h entry hentry).1]
    refine exists_mapM_eq_ok fun entry hentry => ?_
    obtain ⟨value, hvalue⟩ := (h entry ((sortByName_perm written).mem_iff.mp hentry)).2
    rw [hvalue]
    exact ⟨_, rfl⟩

/-- A table can be written when it is not too deep and its names and values can be. -/
theorem canWrite_table_iff {entries : List (Text × Datum)} :
    CanWrite layout depth (.table entries) ↔
      depth < deepest ∧
        ∀ entry ∈ entries, entry.1.isScalar = true ∧ CanWrite layout (depth + 1) entry.2 := by
  have hentries : (∃ texts,
      layout.entries (writeAt.writeEntries layout (depth + 1) entries) = .ok texts) ↔
        ∀ entry ∈ entries, entry.1.isScalar = true ∧ CanWrite layout (depth + 1) entry.2 := by
    rw [exists_entries_eq_ok_iff, writeEntries_eq, List.forall_mem_map]
    rfl
  constructor
  · rintro ⟨t, ht⟩
    obtain ⟨hdepth, texts, htexts, -⟩ := writeAt_table ht
    exact ⟨hdepth, hentries.mp ⟨texts, htexts⟩⟩
  · rintro ⟨hdepth, h⟩
    obtain ⟨texts, htexts⟩ := hentries.mpr h
    refine ⟨layout.enclose depth 0x7B 0x7D texts, ?_⟩
    rw [writeAt, if_neg (by omega)]
    dsimp only [bind, Except.bind, pure, Except.pure]
    rw [htexts]

/-! ## Lines -/

/-- Lines are written without a fault exactly when each datum can be written. -/
theorem writeLines_eq_none_iff {data : List Datum} :
    (writeLines data).2 = none ↔ ∀ d ∈ data, CanWrite .compact 0 d := by
  induction data with
  | nil => simp [writeLines]
  | cons d rest ih =>
      rw [List.forall_mem_cons, ← ih, writeLines, writeLine]
      cases hd : writeAt .compact 0 d with
      | error e =>
          refine iff_of_false (by simp [bind, Except.bind]) ?_
          rintro ⟨⟨t, ht⟩, _⟩
          cases hd.symm.trans ht
      | ok t =>
          have hcan : CanWrite .compact 0 d := ⟨t, hd⟩
          simp [bind, Except.bind, pure, Except.pure, hcan]

end Json

end StoryCatalog

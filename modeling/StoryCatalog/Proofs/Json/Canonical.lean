import StoryCatalog.Proofs.Json.Characters
import StoryCatalog.Proofs.Json.Writable
import StoryCatalog.Proofs.Text.Order

/-!
# Written JSON is canonical

Two payloads that are the same up to the order of names, at every depth, are written as the same
bytes, and no two others are (`utf8_write_eq_iff`). One direction comes from sorting: entries with
different names have only one ascending order, so what is written depends on which entries there
are and not on how they were put together (`writeAt_eq_of_alike`). The other one comes from
reading: what is written is read back in canonical form, and payloads with one canonical form are
alike (`alike_of_canonical_eq`).

A payload can be written if its lists and tables are nested no deeper than `Json.deepest`, and a
deeper one is refused for that reason (`canWrite_iff_of_payload`, `eq_tooDeep_of_error`).
-/

namespace StoryCatalog

/-! ## Payloads -/

namespace Datum

/-- A datum that JSON carries, but for how deep it is nested: integers fit into a word, texts and
names hold no surrogates, and the names of a table are all different. -/
inductive Payload : Datum → Prop where
  | null : Payload .null
  | bool (value : Bool) : Payload (.bool value)
  | integer {value : Int} : fitsWord value = true → Payload (.integer value)
  | text {value : Text} : value.isScalar = true → Payload (.text value)
  | list {items : List Datum} : (∀ item ∈ items, Payload item) → Payload (.list items)
  | table {entries : List (Text × Datum)} : (entries.map Prod.fst).Nodup →
      (∀ entry ∈ entries, entry.1.isScalar = true) → (∀ entry ∈ entries, Payload entry.2) →
      Payload (.table entries)

@[simp]
theorem payload_null : null.Payload :=
  .null

@[simp]
theorem payload_bool (value : Bool) : (bool value).Payload :=
  .bool value

@[simp]
theorem payload_integer_iff {n : Int} : (integer n).Payload ↔ fitsWord n = true :=
  ⟨fun | .integer h => h, .integer⟩

@[simp]
theorem payload_text_iff {t : Text} : (text t).Payload ↔ t.isScalar = true :=
  ⟨fun | .text h => h, .text⟩

@[simp]
theorem payload_list_iff {items : List Datum} :
    (list items).Payload ↔ ∀ item ∈ items, item.Payload :=
  ⟨fun | .list h => h, .list⟩

@[simp]
theorem payload_table_iff {entries : List (Text × Datum)} :
    (table entries).Payload ↔ (entries.map Prod.fst).Nodup ∧
      (∀ entry ∈ entries, entry.1.isScalar = true) ∧ ∀ entry ∈ entries, entry.2.Payload :=
  ⟨fun | .table hnodup hscalar h => ⟨hnodup, hscalar, h⟩, fun h => .table h.1 h.2.1 h.2.2⟩

/-- What can be a payload is plain. -/
theorem Payload.plain {d : Datum} (h : d.Payload) : d.Plain := by
  induction h with
  | null => exact .null
  | bool value => exact .bool value
  | integer => exact .integer _
  | text => exact .text _
  | list _ ih => exact .list ih
  | table hnodup _ _ ih => exact .table hnodup ih

/-- How deep lists and tables are nested, each of them counted. -/
def nesting : Datum → Nat
  | .list items => nestingItems items + 1
  | .table entries => nestingEntries entries + 1
  | .null | .bool _ | .integer _ | .real _ | .text _ | .moment _ => 0
where
  /-- How deep the items of a list are nested. -/
  nestingItems : List Datum → Nat
    | [] => 0
    | item :: rest => max (nesting item) (nestingItems rest)
  /-- How deep the data of a table are nested. -/
  nestingEntries : List (Text × Datum) → Nat
    | [] => 0
    | (_, value) :: rest => max (nesting value) (nestingEntries rest)

/-- A list is nested as deep as its deepest item. -/
theorem nestingItems_le_iff {items : List Datum} {n : Nat} :
    nesting.nestingItems items ≤ n ↔ ∀ item ∈ items, item.nesting ≤ n := by
  induction items with
  | nil => simp [nesting.nestingItems]
  | cons item rest ih => rw [nesting.nestingItems, Nat.max_le, ih, List.forall_mem_cons]

/-- A table is nested as deep as its values. -/
theorem nestingEntries_eq (entries : List (Text × Datum)) :
    nesting.nestingEntries entries = nesting.nestingItems (entries.map Prod.snd) := by
  induction entries with
  | nil => rfl
  | cons entry rest ih => rw [nesting.nestingEntries, ih, List.map_cons, nesting.nestingItems]

/-! ## Equal up to the order of names -/

/-- Two data are the same up to the order of the names in their tables: lists are alike item by
item, and tables have the same names with alike data under each of them. -/
inductive Alike : Datum → Datum → Prop where
  | null : Alike .null .null
  | bool (value : Bool) : Alike (.bool value) (.bool value)
  | integer (value : Int) : Alike (.integer value) (.integer value)
  | text (value : Text) : Alike (.text value) (.text value)
  | list {items others : List Datum} : items.length = others.length →
      (∀ (i : Nat) d e, items[i]? = some d → others[i]? = some e → Alike d e) →
      Alike (.list items) (.list others)
  | table {entries others : List (Text × Datum)} :
      (∀ name, name ∈ entries.map Prod.fst ↔ name ∈ others.map Prod.fst) →
      (∀ name d e, (name, d) ∈ entries → (name, e) ∈ others → Alike d e) →
      Alike (.table entries) (.table others)

/-- The datum under a name that occurs once. -/
theorem eq_of_mem_of_mem {entries : List (Text × Datum)} (h : (entries.map Prod.fst).Nodup)
    {name : Text} {d e : Datum} (hd : (name, d) ∈ entries) (he : (name, e) ∈ entries) : d = e :=
  (Prod.mk.inj (List.inj_on_of_nodup_map h hd he rfl)).2

/-- The canonical entries of a table are its entries with canonical values. -/
theorem mem_canonical_iff {entries : List (Text × Datum)} {name : Text} {c : Datum} :
    (name, c) ∈ Json.sortByName (canonical.canonicalEntries entries) ↔
      ∃ d, (name, d) ∈ entries ∧ d.canonical = c := by
  rw [(Json.sortByName_perm _).mem_iff, canonicalEntries_eq, List.mem_map]
  constructor
  · rintro ⟨⟨_, d⟩, hmem, heq⟩
    obtain ⟨rfl, hcanonical⟩ := Prod.mk.inj heq
    exact ⟨d, hmem, hcanonical⟩
  · rintro ⟨d, hmem, rfl⟩
    exact ⟨(name, d), hmem, rfl⟩

/-- Data with one canonical form are alike. -/
theorem alike_of_canonical_eq {d e : Datum} (hd : d.Plain) (he : e.Plain)
    (h : d.canonical = e.canonical) : d.Alike e := by
  induction hd generalizing e with
  | null =>
      cases he with
      | null => exact .null
      | bool | integer | text | list | table => simp [canonical] at h
  | bool value =>
      cases he with
      | bool other =>
          cases h
          exact .bool value
      | null | integer | text | list | table => simp [canonical] at h
  | integer value =>
      cases he with
      | integer other =>
          cases h
          exact .integer value
      | null | bool | text | list | table => simp [canonical] at h
  | text value =>
      cases he with
      | text other =>
          cases h
          exact .text value
      | null | bool | integer | list | table => simp [canonical] at h
  | @list items _ ih =>
      cases he with
      | @list others hothers =>
          rw [canonical, canonical, list.injEq, canonicalItems_eq, canonicalItems_eq] at h
          refine .list (by simpa using congrArg List.length h) ?_
          intro i d e hd he
          have heq := congrArg (·[i]?) h
          simp only [List.getElem?_map, hd, he, Option.map_some, Option.some.injEq] at heq
          exact ih d (List.mem_of_getElem? hd) (hothers e (List.mem_of_getElem? he)) heq
      | null | bool | integer | text | table => simp [canonical] at h
  | @table entries _ _ ih =>
      cases he with
      | @table others hnodup hothers =>
          -- both tables come to one sorted list, so they have the same entries but for their order
          rw [canonical, canonical, table.injEq] at h
          have hmem : ∀ name c, (∃ d, (name, d) ∈ entries ∧ d.canonical = c) ↔
              ∃ e, (name, e) ∈ others ∧ e.canonical = c := by
            intro name c
            rw [← mem_canonical_iff, ← mem_canonical_iff, h]
          have hname : ∀ (entries : List (Text × Datum)) name, name ∈ entries.map Prod.fst ↔
              ∃ c d, (name, d) ∈ entries ∧ d.canonical = c := by simp
          refine .table ?_ ?_
          · intro name
            rw [hname, hname]
            exact exists_congr (hmem name)
          · intro name d e hd he
            obtain ⟨found, hfound, heq⟩ := (hmem name d.canonical).mp ⟨d, hd, rfl⟩
            rw [eq_of_mem_of_mem hnodup hfound he] at heq
            exact ih (name, d) hd (hothers (name, e) he) heq.symm
      | null | bool | integer | text | list => simp [canonical] at h

end Datum

namespace Json

/-! ## Sorting by name -/

section

variable {α : Type}

/-- Insertion of a new name keeps the names in ascending order. -/
theorem ascending_insertByName {entry : Text × α} {entries : List (Text × α)}
    (h : (entries.map Prod.fst).Pairwise Text.Before) (hentry : entry.1 ∉ entries.map Prod.fst) :
    ((insertByName entry entries).map Prod.fst).Pairwise Text.Before := by
  induction entries with
  | nil => exact List.pairwise_singleton _ _
  | cons first rest ih =>
      rw [List.map_cons, List.mem_cons, not_or] at hentry
      obtain ⟨hfirst, hrest⟩ := List.pairwise_cons.mp h
      unfold insertByName
      split
      · rename_i hle
        have hbefore : entry.1.Before first.1 := ⟨hle, hentry.1⟩
        refine List.pairwise_cons.mpr ⟨?_, h⟩
        intro name hname
        rcases List.mem_cons.mp hname with rfl | hname
        · exact hbefore
        · exact hbefore.trans (hfirst name hname)
      · rename_i hle
        have hbefore : first.1.Before entry.1 :=
          ⟨(Text.le_total entry.1 first.1).resolve_left hle, Ne.symm hentry.1⟩
        refine List.pairwise_cons.mpr ⟨?_, ih hrest hentry.2⟩
        intro name hname
        rw [((insertByName_perm entry rest).map Prod.fst).mem_iff] at hname
        rcases List.mem_cons.mp hname with rfl | hname
        · exact hbefore
        · exact hfirst name hname

/-- Sorted entries have their names in ascending order. -/
theorem ascending_sortByName {entries : List (Text × α)} (h : (entries.map Prod.fst).Nodup) :
    ((sortByName entries).map Prod.fst).Pairwise Text.Before := by
  induction entries with
  | nil => exact .nil
  | cons entry rest ih =>
      obtain ⟨hentry, hrest⟩ := List.nodup_cons.mp h
      refine ascending_insertByName (ih hrest) ?_
      rwa [((sortByName_perm rest).map Prod.fst).mem_iff]

/-- Items with different names have one ascending order, however they were put together. -/
theorem sortByName_eq_of_mem_iff {entries others : List (Text × α)}
    (h : (entries.map Prod.fst).Nodup) (h' : (others.map Prod.fst).Nodup)
    (hmem : ∀ entry, entry ∈ entries ↔ entry ∈ others) :
    sortByName entries = sortByName others := by
  refine Text.eq_of_ascending (ascending_sortByName h) (ascending_sortByName h') ?_
  intro entry
  rw [(sortByName_perm entries).mem_iff, (sortByName_perm others).mem_iff, hmem]

end

/-! ## Alike payloads -/

variable {layout : Layout} {depth : Nat}

/-- What is written for the data of one table is found among what is written for those of another
one that has the same names. -/
theorem mem_map_of_sameNames {β : Type} {f : Datum → β} {entries others : List (Text × Datum)}
    (hnames : ∀ name ∈ entries.map Prod.fst, name ∈ others.map Prod.fst)
    (hdata : ∀ name d e, (name, d) ∈ entries → (name, e) ∈ others → f d = f e)
    {written : Text × β} (h : written ∈ entries.map fun entry => (entry.1, f entry.2)) :
    written ∈ others.map fun entry => (entry.1, f entry.2) := by
  obtain ⟨⟨name, d⟩, hd, rfl⟩ := List.mem_map.mp h
  obtain ⟨⟨_, e⟩, he, rfl⟩ := List.mem_map.mp (hnames name (List.mem_map_of_mem hd))
  rw [hdata _ d e hd he]
  exact List.mem_map_of_mem he

/-- Alike payloads are written as the same text, or refused for the same reason. -/
theorem writeAt_eq_of_alike {d e : Datum} (h : d.Alike e) (hd : d.Payload) (he : e.Payload) :
    writeAt layout depth d = writeAt layout depth e := by
  induction h generalizing depth with
  | null => rfl
  | bool value => rfl
  | integer value => rfl
  | text value => rfl
  | @list items others hlength _ ih =>
      cases hd with | list hitems =>
      cases he with | list hothers =>
      have hall : List.Forall₂ (fun d e => writeAt layout (depth + 1) d =
          writeAt layout (depth + 1) e) items others := by
        refine List.forall₂_iff_get.mpr ⟨hlength, fun i hi hi' => ?_⟩
        exact ih i _ _ (List.getElem?_eq_getElem hi) (List.getElem?_eq_getElem hi')
          (hitems _ (List.getElem_mem hi)) (hothers _ (List.getElem_mem hi'))
      rw [writeAt, writeAt, writeItems_eq, writeItems_eq, mapM_congr_forall₂ hall]
  | @table entries others hnames _ ih =>
      cases hd with | table hnodup hscalar hentries =>
      cases he with | table hnodup' hscalar' hothers =>
      have hdata : ∀ name d e, (name, d) ∈ entries → (name, e) ∈ others →
          writeAt layout (depth + 1) d = writeAt layout (depth + 1) e := by
        intro name d e hd he
        exact ih name d e hd he (hentries _ hd) (hothers _ he)
      -- both tables give the same written entries, and sorting forgets where they stood
      have hsorted : sortByName (writeAt.writeEntries layout (depth + 1) entries) =
          sortByName (writeAt.writeEntries layout (depth + 1) others) := by
        rw [writeEntries_eq, writeEntries_eq]
        refine sortByName_eq_of_mem_iff ?_ ?_ fun written => ⟨?_, ?_⟩
        · rwa [List.map_map]
        · rwa [List.map_map]
        · exact mem_map_of_sameNames (fun name => (hnames name).mp) hdata
        · exact mem_map_of_sameNames (fun name => (hnames name).mpr)
            fun name d e hd he => (hdata name e d he hd).symm
      rw [writeAt, writeAt, entries_eq_mapM (by rwa [writeEntries_eq, List.forall_mem_map]),
        entries_eq_mapM (by rwa [writeEntries_eq, List.forall_mem_map]), hsorted]

/-! ## How deep a payload may be nested -/

/-- What stands in a list or a table can be written if it is not nested too deep. -/
theorem canWrite_inner_iff {data : List Datum}
    (h : ∀ d ∈ data, depth + 1 ≤ deepest →
      (CanWrite layout (depth + 1) d ↔ depth + 1 + d.nesting ≤ deepest)) :
    (depth < deepest ∧ ∀ d ∈ data, CanWrite layout (depth + 1) d) ↔
      depth + (Datum.nesting.nestingItems data + 1) ≤ deepest := by
  constructor
  · rintro ⟨hlt, hdata⟩
    have hle : Datum.nesting.nestingItems data ≤ deepest - (depth + 1) := by
      refine Datum.nestingItems_le_iff.mpr fun d hd => ?_
      have hinner := (h d hd hlt).mp (hdata d hd)
      omega
    omega
  · intro hnesting
    have hlt : depth < deepest := by omega
    have hle : Datum.nesting.nestingItems data ≤ deepest - (depth + 1) := by omega
    refine ⟨hlt, fun d hd => (h d hd hlt).mpr ?_⟩
    have hinner := Datum.nestingItems_le_iff.mp hle d hd
    omega

/-- A payload can be written if it is not nested too deep. -/
theorem canWrite_iff_of_payload {d : Datum} (h : d.Payload) (hdepth : depth ≤ deepest) :
    CanWrite layout depth d ↔ depth + d.nesting ≤ deepest := by
  induction h generalizing depth with
  | null => exact iff_of_true canWrite_null hdepth
  | bool value => exact iff_of_true ⟨_, rfl⟩ hdepth
  | integer hfits => exact iff_of_true (canWrite_integer_iff.mpr hfits) hdepth
  | text hscalar => exact iff_of_true (canWrite_text_iff.mpr hscalar) hdepth
  | @list items _ ih =>
      rw [canWrite_list_iff, Datum.nesting]
      exact canWrite_inner_iff fun d hd hlt => ih d hd hlt
  | @table entries _ hscalar _ ih =>
      have hentries : (∀ entry ∈ entries,
          entry.1.isScalar = true ∧ CanWrite layout (depth + 1) entry.2) ↔
            ∀ d ∈ entries.map Prod.snd, CanWrite layout (depth + 1) d := by
        rw [List.forall_mem_map]
        exact forall₂_congr fun entry hentry => and_iff_right (hscalar entry hentry)
      rw [canWrite_table_iff, hentries, Datum.nesting, Datum.nestingEntries_eq]
      refine canWrite_inner_iff ?_
      rw [List.forall_mem_map]
      exact fun entry hentry hlt => ih entry hentry hlt

/-- Nothing else can be wrong with a payload: the first fault that is met counts, and all of them
are of this kind. -/
theorem eq_tooDeep_of_error {d : Datum} (h : d.Payload) {e : WriteError}
    (he : writeAt layout depth d = .error e) : e = .tooDeep := by
  induction h generalizing depth e with
  | null => cases he
  | bool value => cases he
  | integer hfits =>
      rw [writeAt, integer, if_pos hfits] at he
      cases he
  | text hscalar =>
      rw [writeAt, string, if_pos hscalar] at he
      cases he
  | @list items _ ih =>
      rw [writeAt] at he
      by_cases hdepth : deepest ≤ depth
      · rw [if_pos hdepth] at he
        cases he
        rfl
      · rw [if_neg hdepth, writeItems_eq] at he
        rcases exists_of_bind_eq_error he with he | ⟨_, _, he⟩
        · obtain ⟨item, hitem, he⟩ := exists_of_mapM_eq_error he
          exact ih item hitem he
        · cases he
  | @table entries _ hscalar _ ih =>
      rw [writeAt] at he
      by_cases hdepth : deepest ≤ depth
      · rw [if_pos hdepth] at he
        cases he
        rfl
      · rw [if_neg hdepth, entries_eq_mapM (by rwa [writeEntries_eq, List.forall_mem_map])] at he
        rcases exists_of_bind_eq_error he with he | ⟨_, _, he⟩
        · obtain ⟨written, hwritten, he⟩ := exists_of_mapM_eq_error he
          rw [(sortByName_perm _).mem_iff, writeEntries_eq] at hwritten
          obtain ⟨entry, hentry, rfl⟩ := List.mem_map.mp hwritten
          rcases exists_of_bind_eq_error he with he | ⟨_, _, he⟩
          · exact ih entry hentry he
          · cases he
        · cases he

/-- A payload that is nested too deep is refused for that. -/
theorem write_of_deepest_lt {d : Datum} (h : d.Payload) (hdepth : deepest < d.nesting) :
    write d = .error .tooDeep := by
  cases hd : write d with
  | error e => rw [eq_tooDeep_of_error h hd]
  | ok t =>
      have hcan : CanWrite .indented 0 d := ⟨t, hd⟩
      have hnesting := (canWrite_iff_of_payload h (Nat.zero_le _)).mp hcan
      omega

/-! ## Written bytes -/

/-- Data that are written as the same bytes have one canonical form. -/
theorem canonical_eq_of_utf8_eq {d e : Datum} (hd : d.Plain) (he : e.Plain) {t u : Text}
    (ht : writeAt layout 0 d = .ok t) (hu : writeAt layout 0 e = .ok u) (h : t.utf8 = u.utf8) :
    d.canonical = e.canonical := by
  have hread := read_writeAt hd ht
  rw [h, read_writeAt he hu] at hread
  exact (Option.some.inj hread).symm

/-- Two payloads that are not nested too deep are written as the same bytes exactly when they are
the same up to the order of names at every depth. A payload that is nested deeper is refused. -/
theorem utf8_write_eq_iff {d e : Datum} (hd : d.Payload) (he : e.Payload) :
    (d.nesting ≤ deepest → e.nesting ≤ deepest →
      ∃ t u, write d = .ok t ∧ write e = .ok u ∧ (t.utf8 = u.utf8 ↔ d.Alike e)) ∧
    (deepest < d.nesting → write d = .error .tooDeep) := by
  refine ⟨?_, write_of_deepest_lt hd⟩
  intro hnesting hnesting'
  obtain ⟨t, ht⟩ : CanWrite .indented 0 d :=
    (canWrite_iff_of_payload hd (Nat.zero_le _)).mpr (by omega)
  obtain ⟨u, hu⟩ : CanWrite .indented 0 e :=
    (canWrite_iff_of_payload he (Nat.zero_le _)).mpr (by omega)
  refine ⟨t, u, ht, hu, ?_, ?_⟩
  · intro hbytes
    exact Datum.alike_of_canonical_eq hd.plain he.plain
      (canonical_eq_of_utf8_eq hd.plain he.plain ht hu hbytes)
  · intro halike
    rw [writeAt_eq_of_alike halike hd he, hu] at ht
    rw [Except.ok.inj ht]

end Json

/-! Lists in lists, each of which is a payload, one more of them than can be written. -/

namespace DeepLists

/-- An empty list with this many lists around it. -/
def enclosed : Nat → Datum
  | 0 => .list []
  | n + 1 => .list [enclosed n]

/-- Lists within lists are a payload. -/
theorem payload_enclosed (n : Nat) : (enclosed n).Payload := by
  induction n with
  | zero => simp [enclosed]
  | succ n ih => simp [enclosed, ih]

/-- Each list adds one level. -/
theorem nesting_enclosed (n : Nat) : (enclosed n).nesting = n + 1 := by
  induction n with
  | zero => rfl
  | succ n ih =>
      rw [enclosed, Datum.nesting, Datum.nesting.nestingItems, Datum.nesting.nestingItems, ih,
        Nat.max_zero]

/-- The payload is the same as itself, and no bytes are written for it. -/
theorem write_enclosed : (enclosed 254).Payload ∧ (enclosed 254).Alike (enclosed 254) ∧
    ¬∃ t u, Json.write (enclosed 254) = .ok t ∧ Json.write (enclosed 254) = .ok u ∧
      t.utf8 = u.utf8 := by
  have hpayload := payload_enclosed 254
  have hwrite : Json.write (enclosed 254) = .error .tooDeep :=
    Json.write_of_deepest_lt hpayload (by rw [nesting_enclosed]; decide)
  refine ⟨hpayload, Datum.alike_of_canonical_eq hpayload.plain hpayload.plain rfl, ?_⟩
  rintro ⟨t, _, ht, _⟩
  cases hwrite.symm.trans ht

end DeepLists

/-! Two tables with their names in different orders, outside and inside. -/

namespace TwoOrders

def first : Datum :=
  .table
    [("b", .list [.table [("é", .integer (-1)), ("x", .text "\n\"")], .bool true]), ("a", .null)]

def second : Datum :=
  .table
    [("a", .null), ("b", .list [.table [("x", .text "\n\""), ("é", .integer (-1))], .bool true])]

theorem payload_first : first.Payload := by
  simp +decide [first]

theorem payload_second : second.Payload := by
  simp +decide [second]

/-- Both are written as the same bytes. -/
theorem utf8_write_first : first.Payload ∧ second.Payload ∧
    ∃ t u, Json.write first = .ok t ∧ Json.write second = .ok u ∧ t.utf8 = u.utf8 := by
  obtain ⟨t, u, ht, hu, hiff⟩ :=
    (Json.utf8_write_eq_iff payload_first payload_second).1 (by decide) (by decide)
  have halike : first.Alike second :=
    Datum.alike_of_canonical_eq payload_first.plain payload_second.plain rfl
  exact ⟨payload_first, payload_second, t, u, ht, hu, hiff.mpr halike⟩

end TwoOrders

end StoryCatalog

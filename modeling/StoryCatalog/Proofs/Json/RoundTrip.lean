import StoryCatalog.Proofs.Json.Steps
import StoryCatalog.Proofs.Pointwise

/-!
# Data are read back from JSON as they were written

A datum without floating-point numbers and moments, whose tables have each name once, is read back
from the text that was written for it, up to the order of names (`readText_writeAt`). The writer
puts names into ascending order, so what comes back is the canonical form of the datum.
-/

namespace StoryCatalog

namespace Datum

/-- The datum with the names of every table in ascending order. -/
def canonical : Datum → Datum
  | .list items => .list (canonicalItems items)
  | .table entries => .table (Json.sortByName (canonicalEntries entries))
  | .null => .null
  | .bool value => .bool value
  | .integer value => .integer value
  | .real value => .real value
  | .text value => .text value
  | .moment value => .moment value
where
  /-- The items of a list in canonical form. -/
  canonicalItems : List Datum → List Datum
    | [] => []
    | item :: rest => canonical item :: canonicalItems rest
  /-- The entries of a table in canonical form. -/
  canonicalEntries : List (Text × Datum) → List (Text × Datum)
    | [] => []
    | (name, value) :: rest => (name, canonical value) :: canonicalEntries rest

/-- The canonical form of a list is that of its items. -/
theorem canonicalItems_eq (items : List Datum) :
    canonical.canonicalItems items = items.map canonical := by
  induction items with
  | nil => rfl
  | cons item rest ih => rw [canonical.canonicalItems, ih, List.map_cons]

/-- The canonical form of entries keeps their names. -/
theorem canonicalEntries_eq (entries : List (Text × Datum)) :
    canonical.canonicalEntries entries = entries.map fun entry => (entry.1, entry.2.canonical) := by
  induction entries with
  | nil => rfl
  | cons entry rest ih => rw [canonical.canonicalEntries, ih, List.map_cons]

/-- A datum of nothing, truth values, integers and texts, whose tables have each name once. -/
inductive Plain : Datum → Prop where
  | null : Plain .null
  | bool (value : Bool) : Plain (.bool value)
  | integer (value : Int) : Plain (.integer value)
  | text (value : Text) : Plain (.text value)
  | list {items : List Datum} : (∀ item ∈ items, Plain item) → Plain (.list items)
  | table {entries : List (Text × Datum)} : (entries.map Prod.fst).Nodup →
      (∀ entry ∈ entries, Plain entry.2) → Plain (.table entries)

/-- A name that a table does not have goes to its end. -/
theorem put_of_not_mem {name : Text} {value : Datum} {entries : List (Text × Datum)}
    (h : name ∉ entries.map Prod.fst) : put name value entries = entries ++ [(name, value)] := by
  induction entries with
  | nil => rfl
  | cons entry rest ih =>
      obtain ⟨key, old⟩ := entry
      rw [List.map_cons, List.mem_cons, not_or] at h
      rw [put, if_neg (by simpa using Ne.symm h.1), ih h.2, List.cons_append]

end Datum

namespace Json

/-! ## Sorting by name -/

section

variable {α β : Type}

/-- Insertion adds one entry and loses none. -/
theorem insertByName_perm (entry : Text × α) (entries : List (Text × α)) :
    (insertByName entry entries).Perm (entry :: entries) := by
  induction entries with
  | nil => exact .refl _
  | cons first rest ih =>
      unfold insertByName
      split
      · exact .refl _
      · exact (ih.cons first).trans (.swap entry first rest)

/-- Sorting entries neither adds nor loses one. -/
theorem sortByName_perm (entries : List (Text × α)) : (sortByName entries).Perm entries := by
  induction entries with
  | nil => exact .refl _
  | cons entry rest ih => exact (insertByName_perm entry _).trans (ih.cons entry)

/-- Insertion looks at names only, so it may come before or after a change of the values. -/
theorem insertByName_map (f : Text × α → β) (entry : Text × α) (entries : List (Text × α)) :
    insertByName (entry.1, f entry) (entries.map fun entry => (entry.1, f entry)) =
      (insertByName entry entries).map fun entry => (entry.1, f entry) := by
  induction entries with
  | nil => rfl
  | cons first rest ih =>
      simp only [List.map_cons, insertByName]
      split
      · rfl
      · rw [ih, List.map_cons]

/-- What stands beside the names plays no part in their order. -/
theorem sortByName_map (f : Text × α → β) (entries : List (Text × α)) :
    sortByName (entries.map fun entry => (entry.1, f entry)) =
      (sortByName entries).map fun entry => (entry.1, f entry) := by
  induction entries with
  | nil => rfl
  | cons entry rest ih => rw [List.map_cons, sortByName, ih, insertByName_map, sortByName]

end

/-! ## Reading what was written -/

/-- The text is read as the datum inside this many lists and tables, and what stands behind it is
left. It starts neither with a blank nor with the end of a list. -/
structure Reads (depth : Nat) (t : Text) (d : Datum) : Prop where
  head : ∃ c rest, t = c :: rest ∧ isBlank c = false ∧ c ≠ 0x5D
  value : ∀ {rounds room : Nat} {rest : Text}, t.length ≤ rounds → deepest ≤ depth + room →
    EndsNumber rest → value? rounds room (t ++ rest) = some (d, rest)

theorem endsNumber_cons {c : CodePoint} (h : c ∈ ([0x2C, 0x5D, 0x7D] : Text)) (rest : Text) :
    EndsNumber (c :: rest) := by
  intro d hd
  cases hd
  simp only [List.mem_cons, List.not_mem_nil, or_false] at h
  rcases h with rfl | rfl | rfl <;> decide

/-- Blanks and a closing mark may stand behind a number. -/
theorem endsNumber_blanks {blanks rest : Text} (h : AllBlank blanks) (hrest : EndsNumber rest) :
    EndsNumber (blanks ++ rest) := by
  cases blanks with
  | nil => exact hrest
  | cons c blanks =>
      intro d hd
      cases hd
      have hblank := h c List.mem_cons_self
      simp only [isBlank, Bool.or_eq_true, decide_eq_true_eq] at hblank
      rcases hblank with ((rfl | rfl) | rfl) | rfl <;> decide

/-- A written text is read back. -/
theorem reads_string {depth : Nat} (t : Text) :
    Reads depth (0x22 :: t.flatMap escaped ++ [0x22]) (.text t) where
  head := ⟨0x22, _, List.cons_append .., by decide, by decide⟩
  value := by
    intro rounds room rest hrounds _ _
    cases rounds with
    | zero => simp at hrounds
    | succ rounds =>
        rw [List.cons_append, List.cons_append, List.append_assoc, value?_string,
          List.singleton_append, string?_flatMap_escaped]
        rfl

/-- A written integer starts as a number does. -/
theorem ofInt_head (n : Int) : ∃ c rest, Text.ofInt n = c :: rest ∧ StartsNumber c := by
  cases n with
  | ofNat n =>
      cases h : Text.ofNat n with
      | nil => exact absurd h (ofNat_ne_nil n)
      | cons c rest =>
          refine ⟨c, rest, h, .inl (isDigit_of_mem_ofNat (n := n) ?_)⟩
          rw [h]
          exact List.mem_cons_self
  | negSucc n => exact ⟨0x2D, _, rfl, .inr rfl⟩

/-- A written integer of one word is read back. -/
theorem reads_integer {depth : Nat} {n : Int} (h : fitsWord n = true) :
    Reads depth (Text.ofInt n) (.integer n) := by
  obtain ⟨c, digits, hhead, hc⟩ := ofInt_head n
  refine ⟨⟨c, digits, hhead, ?_⟩, ?_⟩
  · have hblank : isBlank c = false := by
      simp only [isBlank, Bool.or_eq_false_iff, decide_eq_false_iff_not]
      exact ⟨⟨⟨hc.ne (by decide), hc.ne (by decide)⟩, hc.ne (by decide)⟩, hc.ne (by decide)⟩
    exact ⟨hblank, hc.ne (by decide)⟩
  · intro rounds room rest hrounds _ hrest
    cases rounds with
    | zero => simp [hhead] at hrounds
    | succ rounds =>
        have hnumber := number?_ofInt h hrest
        rw [hhead, List.cons_append] at hnumber ⊢
        rw [value?_number hc, hnumber]

/-- Between the parts of a value only blanks are written. -/
theorem allBlank_lineEnd (layout : Layout) (depth : Nat) : AllBlank (layout.lineEnd depth) := by
  intro c hc
  cases layout with
  | compact => simp [Layout.lineEnd] at hc
  | indented =>
      rw [Layout.lineEnd, List.mem_cons, List.mem_replicate] at hc
      rcases hc with rfl | ⟨_, rfl⟩ <;> decide

section

variable {depth : Nat} {blanks tail : Text}

/-- The items of a list are read one after the other. -/
theorem items?_join (hblanks : AllBlank blanks) (htail : AllBlank tail) {texts : List Text}
    {data : List Datum} (h : List.Forall₂ (Reads depth) texts data) (hne : texts ≠ [])
    {rounds room : Nat} (hrounds : (Text.join (0x2C :: blanks) texts).length < rounds)
    (hroom : deepest ≤ depth + room) (rest : Text) :
    items? rounds room (Text.join (0x2C :: blanks) texts ++ (tail ++ 0x5D :: rest)) =
      some (data, rest) := by
  induction h generalizing rounds with
  | nil => exact absurd rfl hne
  | @cons t d texts data hread hrest ih =>
      cases rounds with
      | zero => omega
      | succ rounds =>
          cases hrest with
          | nil =>
              rw [Text.join_singleton] at hrounds ⊢
              refine items?_last (hread.value (by omega) hroom ?_) ?_
              · exact endsNumber_blanks htail (endsNumber_cons (by decide) rest)
              · rw [skipBlanks_append htail]
                rfl
          | cons hread' hrest' =>
              rw [Text.join_cons_cons] at hrounds ⊢
              simp only [List.length_append, List.length_cons] at hrounds
              simp only [List.append_assoc, List.cons_append]
              rw [items?_more (hread.value (by omega) hroom (endsNumber_cons (by decide) _)) rfl,
                items?_blanks_append hblanks, ih (List.cons_ne_nil _ _) (by omega)]
              rfl

/-- The text of an entry of a table: its name, a colon, and its value. -/
def ReadsEntry (depth : Nat) (t : Text) (entry : Text × Datum) : Prop :=
  ∃ blanks inner, t = 0x22 :: (entry.1.flatMap escaped ++ 0x22 :: 0x3A :: (blanks ++ inner)) ∧
    AllBlank blanks ∧ Reads depth inner entry.2

/-- The entries of a table are read one after the other. -/
theorem entries?_join (hblanks : AllBlank blanks) (htail : AllBlank tail) {texts : List Text}
    {entries : List (Text × Datum)} (h : List.Forall₂ (ReadsEntry depth) texts entries)
    (hne : texts ≠ []) (before : List (Text × Datum))
    (hnodup : ((before ++ entries).map Prod.fst).Nodup) {rounds room : Nat}
    (hrounds : (Text.join (0x2C :: blanks) texts).length < rounds)
    (hroom : deepest ≤ depth + room) (rest : Text) :
    entries? rounds room before (Text.join (0x2C :: blanks) texts ++ (tail ++ 0x7D :: rest)) =
      some (before ++ entries, rest) := by
  induction h generalizing rounds before with
  | nil => exact absurd rfl hne
  | @cons t entry texts entries hread hrest ih =>
      obtain ⟨name, value⟩ := entry
      obtain ⟨gap, inner, rfl, hgap, hread⟩ := hread
      -- a new name goes to the end of the entries, so nothing read before is replaced
      have hname : name ∉ before.map Prod.fst := by
        rw [List.map_append, List.nodup_append] at hnodup
        exact fun hmem => hnodup.2.2 name hmem name List.mem_cons_self rfl
      have hput : Datum.put name value before = before ++ [(name, value)] :=
        Datum.put_of_not_mem hname
      cases rounds with
      | zero => omega
      | succ rounds =>
          cases hrest with
          | nil =>
              rw [Text.join_singleton] at hrounds ⊢
              simp only [List.length_cons, List.length_append] at hrounds
              simp only [List.append_assoc, List.cons_append]
              rw [entries?_last (string?_flatMap_escaped _ _)
                ((value?_blanks_append hgap _).trans (hread.value (by omega) hroom ?_)) ?_, hput]
              · exact endsNumber_blanks htail (endsNumber_cons (by decide) rest)
              · rw [skipBlanks_append htail]
                rfl
          | cons hread' hrest' =>
              rw [Text.join_cons_cons] at hrounds ⊢
              simp only [List.length_append, List.length_cons] at hrounds
              simp only [List.append_assoc, List.cons_append]
              rw [entries?_more (string?_flatMap_escaped _ _)
                ((value?_blanks_append hgap _).trans
                  (hread.value (by omega) hroom (endsNumber_cons (by decide) _))) rfl, hput,
                entries?_blanks_append hblanks, ih (List.cons_ne_nil _ _) _ ?_ (by omega)]
              · rw [List.append_assoc, List.singleton_append]
              · rw [List.append_assoc, List.singleton_append]
                exact hnodup

end

/-! ## Lists and tables -/

section

variable (layout : Layout) (depth : Nat) (opening closing : CodePoint)

/-- The text of a list or table that is not empty. -/
theorem enclose_append {texts : List Text} (h : texts ≠ []) (rest : Text) :
    layout.enclose depth opening closing texts ++ rest =
      opening :: (layout.lineEnd (depth + 1)
        ++ (Text.join (0x2C :: layout.lineEnd (depth + 1)) texts
          ++ (layout.lineEnd depth ++ closing :: rest))) := by
  rw [Layout.enclose, if_neg (by simpa using h)]
  simp

theorem length_join_lt_enclose {texts : List Text} (h : texts ≠ []) :
    (Text.join (0x2C :: layout.lineEnd (depth + 1)) texts).length + 1 <
      (layout.enclose depth opening closing texts).length := by
  rw [Layout.enclose, if_neg (by simpa using h)]
  simp only [List.length_cons, List.length_append, List.length_nil]
  omega

/-- What is enclosed starts with the opening bracket. -/
theorem enclose_head (texts : List Text) :
    ∃ rest, layout.enclose depth opening closing texts = opening :: rest := by
  unfold Layout.enclose
  split
  · exact ⟨_, rfl⟩
  · exact ⟨_, List.cons_append ..⟩

/-- Behind the opening mark the reader comes to the first item. -/
theorem skipBlanks_join {c : CodePoint} (hc : isBlank c = false) (separator front : Text)
    (texts : List Text) (rest : Text) :
    skipBlanks (layout.lineEnd depth ++ (Text.join separator ((c :: front) :: texts) ++ rest)) =
        Text.join separator ((c :: front) :: texts) ++ rest ∧
      (Text.join separator ((c :: front) :: texts) ++ rest).head? = some c := by
  have hjoin : ∃ more, Text.join separator ((c :: front) :: texts) = c :: more := by
    cases texts with
    | nil => exact ⟨front, Text.join_singleton separator _⟩
    | cons second texts => exact ⟨_, Text.join_cons_cons separator (c :: front) second texts⟩
  obtain ⟨more, hjoin⟩ := hjoin
  rw [skipBlanks_append (allBlank_lineEnd layout depth), hjoin, List.cons_append,
    skipBlanks_cons hc]
  exact ⟨rfl, rfl⟩

end

section

variable {depth : Nat} (layout : Layout)

/-- A list is read back when its items are. -/
theorem reads_list {texts : List Text} {data : List Datum}
    (h : List.Forall₂ (Reads (depth + 1)) texts data) (hdepth : depth < deepest) :
    Reads depth (layout.enclose depth 0x5B 0x5D texts) (.list data) := by
  obtain ⟨after, hopen⟩ := enclose_head layout depth 0x5B 0x5D texts
  refine ⟨⟨0x5B, after, hopen, by decide, by decide⟩, ?_⟩
  intro rounds room rest hrounds hroom _
  cases rounds with
  | zero => simp [hopen] at hrounds
  | succ rounds =>
      obtain ⟨room, rfl⟩ : ∃ n, room = n + 1 := ⟨room - 1, by omega⟩
      cases h with
      | nil => exact value?_list_nil
      | @cons t d texts data hread hrest =>
          obtain ⟨c, front, rfl, hblank, hc⟩ := hread.head
          have hne := List.cons_ne_nil (c :: front) texts
          have hlength := length_join_lt_enclose layout depth 0x5B 0x5D hne
          have hitems := items?_join (allBlank_lineEnd layout (depth + 1))
            (allBlank_lineEnd layout depth) (.cons hread hrest) hne
            (show _ < rounds by omega) (show deepest ≤ depth + 1 + room by omega) rest
          obtain ⟨hskip, hhead⟩ := skipBlanks_join layout (depth + 1) hblank
            (0x2C :: layout.lineEnd (depth + 1)) front texts (layout.lineEnd depth ++ 0x5D :: rest)
          rw [enclose_append layout depth _ _ hne, value?_list hskip (by simpa [hhead] using hc),
            hitems]
          rfl

/-- A table is read back when its entries are and its names differ. -/
theorem reads_table {texts : List Text} {entries : List (Text × Datum)}
    (h : List.Forall₂ (ReadsEntry (depth + 1)) texts entries)
    (hnodup : (entries.map Prod.fst).Nodup) (hdepth : depth < deepest) :
    Reads depth (layout.enclose depth 0x7B 0x7D texts) (.table entries) := by
  obtain ⟨after, hopen⟩ := enclose_head layout depth 0x7B 0x7D texts
  refine ⟨⟨0x7B, after, hopen, by decide, by decide⟩, ?_⟩
  intro rounds room rest hrounds hroom _
  cases rounds with
  | zero => simp [hopen] at hrounds
  | succ rounds =>
      obtain ⟨room, rfl⟩ : ∃ n, room = n + 1 := ⟨room - 1, by omega⟩
      cases h with
      | nil => exact value?_table_nil
      | @cons t entry texts entries hread hrest =>
          have hall := List.Forall₂.cons hread hrest
          obtain ⟨gap, inner, rfl, _, _⟩ := hread
          have hne := List.cons_ne_nil
            (0x22 :: (entry.1.flatMap escaped ++ 0x22 :: 0x3A :: (gap ++ inner))) texts
          have hlength := length_join_lt_enclose layout depth 0x7B 0x7D hne
          have hentries := entries?_join (allBlank_lineEnd layout (depth + 1))
            (allBlank_lineEnd layout depth) hall hne [] hnodup
            (show _ < rounds by omega) (show deepest ≤ depth + 1 + room by omega) rest
          obtain ⟨hskip, hhead⟩ := skipBlanks_join layout (depth + 1)
            (show isBlank 0x22 = false by decide) (0x2C :: layout.lineEnd (depth + 1))
            (entry.1.flatMap escaped ++ 0x22 :: 0x3A :: (gap ++ inner)) texts
            (layout.lineEnd depth ++ 0x7D :: rest)
          rw [enclose_append layout depth _ _ hne, value?_table hskip (by rw [hhead]; decide),
            hentries]
          rfl

end

/-! ## What was written -/

/-- The items of a list are written one by one. -/
theorem forall₂_writeItems {layout : Layout} {depth : Nat} {items : List Datum} {texts : List Text}
    (h : writeAt.writeItems layout depth items = .ok texts) :
    List.Forall₂ (fun t item => writeAt layout depth item = .ok t) texts items := by
  induction items generalizing texts with
  | nil =>
      cases h
      exact .nil
  | cons item rest ih =>
      rw [writeAt.writeItems] at h
      obtain ⟨first, hfirst, h⟩ := exists_of_bind_eq_ok h
      obtain ⟨more, hmore, h⟩ := exists_of_bind_eq_ok h
      cases h
      exact .cons hfirst (ih hmore)

/-- The entries of a table are written one by one, each with its name. -/
theorem writeEntries_eq (layout : Layout) (depth : Nat) (entries : List (Text × Datum)) :
    writeAt.writeEntries layout depth entries =
      entries.map fun entry => (entry.1, writeAt layout depth entry.2) := by
  induction entries with
  | nil => rfl
  | cons entry rest ih => rw [writeAt.writeEntries, ih, List.map_cons]

/-- The quoted form of a name that can be written. -/
theorem eq_of_string_eq_ok {t written : Text} (h : string t = .ok written) :
    t.isScalar = true ∧ written = 0x22 :: t.flatMap escaped ++ [0x22] := by
  unfold string at h
  split at h
  · rename_i hscalar
    cases h
    exact ⟨hscalar, rfl⟩
  · cases h

/-- The texts of the entries stand in the order of the names. -/
theorem forall₂_entries {layout : Layout} {written : List (Text × Except WriteError Text)}
    {texts : List Text} (h : layout.entries written = .ok texts) :
    List.Forall₂ (fun t entry => ∃ key value, string entry.1 = .ok key ∧ entry.2 = .ok value ∧
      t = key ++ layout.colon ++ value) texts (sortByName written) := by
  obtain ⟨named, hnamed, h⟩ := exists_of_bind_eq_ok h
  have hkeys : named = written.map fun entry =>
      (entry.1, (0x22 :: entry.1.flatMap escaped ++ [0x22], entry.2)) := by
    refine List.forall₂_eq_eq_eq ▸ List.forall₂_map_right_iff.mpr
      ((forall₂_of_mapM_eq_ok hnamed).imp ?_)
    rintro found ⟨name, value⟩ hfound
    obtain ⟨key, hkey, hfound⟩ := exists_of_bind_eq_ok hfound
    cases hfound
    rw [(eq_of_string_eq_ok hkey).2]
  rw [hkeys, sortByName_map, List.mapM_map] at h
  refine forall₂_imp_of_mem (forall₂_of_mapM_eq_ok h) ?_
  rintro t _ ⟨name, value⟩ hmem ht
  obtain ⟨found, hfound, ht⟩ := exists_of_bind_eq_ok ht
  cases ht
  obtain ⟨named, hnamed⟩ :=
    exists_of_mapM_eq_ok hnamed ((sortByName_perm written).mem_iff.mp hmem)
  obtain ⟨key, hkey, _⟩ := exists_of_bind_eq_ok hnamed
  have heq := (eq_of_string_eq_ok hkey).2
  exact ⟨key, found, hkey, hfound, by rw [heq]⟩

/-- A list that could be written stands in brackets and is not too deep. -/
theorem writeAt_list {layout : Layout} {depth : Nat} {items : List Datum} {t : Text}
    (h : writeAt layout depth (.list items) = .ok t) :
    depth < deepest ∧ ∃ texts, writeAt.writeItems layout (depth + 1) items = .ok texts ∧
      t = layout.enclose depth 0x5B 0x5D texts := by
  rw [writeAt] at h
  by_cases hdepth : deepest ≤ depth
  · rw [if_pos hdepth] at h
    cases h
  · rw [if_neg hdepth] at h
    obtain ⟨texts, htexts, h⟩ := exists_of_bind_eq_ok h
    cases h
    exact ⟨by omega, texts, htexts, rfl⟩

/-- A table that could be written stands in braces and is not too deep. -/
theorem writeAt_table {layout : Layout} {depth : Nat} {entries : List (Text × Datum)} {t : Text}
    (h : writeAt layout depth (.table entries) = .ok t) :
    depth < deepest ∧ ∃ texts,
      layout.entries (writeAt.writeEntries layout (depth + 1) entries) = .ok texts ∧
        t = layout.enclose depth 0x7B 0x7D texts := by
  rw [writeAt] at h
  by_cases hdepth : deepest ≤ depth
  · rw [if_pos hdepth] at h
    cases h
  · rw [if_neg hdepth] at h
    obtain ⟨texts, htexts, h⟩ := exists_of_bind_eq_ok h
    cases h
    exact ⟨by omega, texts, htexts, rfl⟩

/-- The colon between a name and its datum, with the blanks behind it. -/
theorem exists_colon_eq (layout : Layout) :
    ∃ blanks, layout.colon = 0x3A :: blanks ∧ AllBlank blanks := by
  cases layout with
  | compact => exact ⟨[], rfl, by simp [AllBlank]⟩
  | indented =>
      refine ⟨[0x20], rfl, ?_⟩
      intro c hc
      rw [List.mem_singleton.mp hc]
      decide

/-- A word that stands for a value is read back. -/
theorem reads_word {depth : Nat} {word : Text} {d : Datum} {c : CodePoint} {front : Text}
    (hword : word = c :: front) (hblank : isBlank c = false) (hc : c ≠ 0x5D)
    (h : ∀ rounds room rest, value? (rounds + 1) room (word ++ rest) = some (d, rest)) :
    Reads depth word d := by
  refine ⟨⟨c, front, hword, hblank, hc⟩, ?_⟩
  intro rounds room rest hrounds _ _
  cases rounds with
  | zero => simp [hword] at hrounds
  | succ rounds => exact h rounds room rest

/-- What is written for a plain datum is read as its canonical form. -/
theorem reads_writeAt {layout : Layout} {d : Datum} (h : d.Plain) {depth : Nat} {t : Text}
    (ht : writeAt layout depth d = .ok t) : Reads depth t d.canonical := by
  induction h generalizing depth t with
  | null =>
      cases ht
      exact reads_word (show Text.ofString "null" = 0x6E :: [0x75, 0x6C, 0x6C] by decide)
        (by decide) (by decide) fun _ _ _ => value?_null
  | bool value =>
      cases ht
      cases value with
      | false =>
          exact reads_word (show Text.ofString "false" = 0x66 :: [0x61, 0x6C, 0x73, 0x65] by decide)
            (by decide) (by decide) fun _ _ _ => value?_bool false
      | true =>
          exact reads_word (show Text.ofString "true" = 0x74 :: [0x72, 0x75, 0x65] by decide)
            (by decide) (by decide) fun _ _ _ => value?_bool true
  | integer value =>
      rw [writeAt, integer] at ht
      split at ht
      · rename_i hfits
        cases ht
        exact reads_integer hfits
      · cases ht
  | text value =>
      rw [writeAt] at ht
      rw [(eq_of_string_eq_ok ht).2]
      exact reads_string value
  | @list items hitems ih =>
      obtain ⟨hdepth, texts, htexts, rfl⟩ := writeAt_list ht
      rw [Datum.canonical, Datum.canonicalItems_eq]
      refine reads_list layout (List.forall₂_map_right_iff.mpr ?_) hdepth
      exact forall₂_imp_of_mem (forall₂_writeItems htexts) fun _ _ item hmem => ih item hmem
  | @table entries hnodup hentries ih =>
      obtain ⟨hdepth, texts, htexts, rfl⟩ := writeAt_table ht
      -- Writer and canonical form sort the entries by the same names, so sorting comes to the front
      -- on both sides.
      rw [writeEntries_eq] at htexts
      have hwritten := forall₂_entries htexts
      rw [sortByName_map, List.forall₂_map_right_iff] at hwritten
      rw [Datum.canonical, Datum.canonicalEntries_eq, sortByName_map]
      refine reads_table layout (List.forall₂_map_right_iff.mpr ?_) ?_ hdepth
      · refine forall₂_imp_of_mem hwritten ?_
        rintro _ _ ⟨name, value⟩ hmem ⟨key, inner, hkey, hinner, rfl⟩
        obtain ⟨blanks, hcolon, hblanks⟩ := exists_colon_eq layout
        obtain ⟨_, rfl⟩ := eq_of_string_eq_ok hkey
        refine ⟨blanks, inner, by simp [hcolon], hblanks, ?_⟩
        exact ih _ ((sortByName_perm entries).mem_iff.mp hmem) hinner
      · rw [List.map_map]
        exact ((sortByName_perm entries).map Prod.fst).nodup_iff.mpr hnodup

/-- What is written for a plain datum is read back in canonical form. -/
theorem readText_writeAt {layout : Layout} {d : Datum} (h : d.Plain) {t : Text}
    (ht : writeAt layout 0 d = .ok t) : readText t = some d.canonical := by
  have hvalue : value? (t.length + 1) nestingLimit (t ++ []) = some (d.canonical, []) :=
    (reads_writeAt h ht).value (Nat.le_succ t.length) (by decide) (by simp [EndsNumber])
  rw [List.append_nil] at hvalue
  rw [readText, hvalue]
  rfl

end Json

end StoryCatalog

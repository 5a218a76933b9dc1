import StoryCatalog.Json.Reader

/-!
# Tables that are read have different names

When a name occurs twice in the text of a table, the later datum takes the place of the earlier one.
So the names of every table in a datum that was read, however deep, are all different
(`wellNamed_read`).
-/

namespace StoryCatalog

namespace Datum

/-- The datum holds no moments, and the names of every table in it are all different. -/
inductive WellNamed : Datum → Prop where
  | null : WellNamed .null
  | bool (value : Bool) : WellNamed (.bool value)
  | integer (value : Int) : WellNamed (.integer value)
  | real (value : Binary64) : WellNamed (.real value)
  | text (value : Text) : WellNamed (.text value)
  | list {items : List Datum} : (∀ item ∈ items, WellNamed item) → WellNamed (.list items)
  | table {entries : List (Text × Datum)} : (entries.map Prod.fst).Nodup →
      (∀ entry ∈ entries, WellNamed entry.2) → WellNamed (.table entries)

/-- A well-named table names no entry twice. -/
theorem WellNamed.nodup {entries : List (Text × Datum)} (h : WellNamed (.table entries)) :
    (entries.map Prod.fst).Nodup := by
  cases h with
  | table hnodup _ => exact hnodup

/-- What is found under a name is an entry of the table. -/
theorem mem_of_get? {entries : List (Text × Datum)} {name : Text} {value : Datum}
    (h : get? name entries = some value) : (name, value) ∈ entries := by
  induction entries with
  | nil => cases h
  | cons entry rest ih =>
      rw [get?] at h
      split at h
      · rename_i hname
        cases h
        rw [← beq_iff_eq.mp hname]
        exact List.mem_cons_self
      · exact List.mem_cons_of_mem _ (ih h)

/-- What is found in a well-named table is well-named itself. -/
theorem WellNamed.of_get? {entries : List (Text × Datum)} (h : WellNamed (.table entries))
    {name : Text} {value : Datum} (hget : get? name entries = some value) : WellNamed value := by
  cases h with
  | table _ hvalues => exact hvalues _ (mem_of_get? hget)

/-- An entry after putting a value under a name is the new one or was there before. -/
theorem mem_put {name : Text} {value : Datum} {entries : List (Text × Datum)}
    {entry : Text × Datum} (h : entry ∈ put name value entries) :
    entry = (name, value) ∨ entry ∈ entries := by
  induction entries with
  | nil => exact .inl (List.mem_singleton.mp h)
  | cons first rest ih =>
      obtain ⟨key, old⟩ := first
      rw [put] at h
      split at h
      · rename_i hkey
        rw [beq_iff_eq] at hkey
        subst hkey
        exact (List.mem_cons.mp h).imp_right (List.mem_cons_of_mem _)
      · rcases List.mem_cons.mp h with rfl | h
        · exact .inr List.mem_cons_self
        · exact (ih h).imp_right (List.mem_cons_of_mem _)

/-- Putting a value under a name never names an entry twice. -/
theorem nodup_put {name : Text} {value : Datum} {entries : List (Text × Datum)}
    (h : (entries.map Prod.fst).Nodup) : ((put name value entries).map Prod.fst).Nodup := by
  induction entries with
  | nil => simp [put]
  | cons first rest ih =>
      obtain ⟨key, old⟩ := first
      rw [List.map_cons, List.nodup_cons] at h
      rw [put]
      split
      · exact List.nodup_cons.mpr h
      · rename_i hkey
        rw [beq_iff_eq] at hkey
        refine List.nodup_cons.mpr ⟨?_, ih h.2⟩
        intro hmem
        obtain ⟨entry, hentry, heq⟩ := List.mem_map.mp hmem
        rcases mem_put hentry with rfl | hentry
        · exact hkey heq.symm
        · exact h.1 (heq ▸ List.mem_map_of_mem hentry)

/-- A datum may be put under any name. -/
theorem WellNamed.put {entries : List (Text × Datum)} (h : WellNamed (.table entries))
    {value : Datum} (hvalue : value.WellNamed) (name : Text) :
    WellNamed (.table (put name value entries)) := by
  cases h with
  | table hnodup hvalues =>
      refine .table (nodup_put hnodup) ?_
      intro entry hentry
      rcases mem_put hentry with rfl | hentry
      · exact hvalue
      · exact hvalues entry hentry

end Datum

namespace Json

open Datum

theorem wellNamed_numberValue? {negative : Bool} {whole fraction : Text} {exponent : Option Int}
    {d : Datum} (h : numberValue? negative whole fraction exponent = some d) : d.WellNamed := by
  unfold numberValue? at h
  dsimp only at h
  generalize (if negative = true then -(digitsValue whole : Int) else digitsValue whole) = n at h
  split at h
  · cases h
    exact .integer _
  · split at h
    · cases h
      exact .real _
    · cases h

/-- A number that is read holds no table, so it is well-named. -/
theorem wellNamed_number? {t rest : Text} {d : Datum} (h : number? t = some (d, rest)) :
    d.WellNamed := by
  unfold number? at h
  dsimp only at h
  obtain ⟨⟨whole, _⟩, _, h⟩ := Option.bind_eq_some_iff.mp h
  obtain ⟨⟨fraction, _⟩, _, h⟩ := Option.bind_eq_some_iff.mp h
  obtain ⟨⟨exponent, _⟩, _, h⟩ := Option.bind_eq_some_iff.mp h
  obtain ⟨value, hvalue, h⟩ := Option.bind_eq_some_iff.mp h
  cases h
  exact wellNamed_numberValue? hvalue

/-- What the three parts of the reader give when they may go on for this many rounds. -/
structure ReadsWellNamed (rounds : Nat) : Prop where
  value : ∀ {room t d rest}, value? rounds room t = some (d, rest) → d.WellNamed
  items : ∀ {room t data rest}, items? rounds room t = some (data, rest) →
    ∀ item ∈ data, WellNamed item
  entries : ∀ {room before t entries rest}, entries? rounds room before t = some (entries, rest) →
    WellNamed (.table before) → WellNamed (.table entries)

theorem ReadsWellNamed.zero : ReadsWellNamed 0 where
  value := by
    intro room t d rest h
    rw [value?] at h
    cases h
  items := by
    intro room t data rest h
    rw [items?] at h
    cases h
  entries := by
    intro room before t entries rest h
    rw [entries?] at h
    cases h

/-- A word of the language stands for a value without names. -/
theorem wellNamed_word? {word t rest : Text} {d value : Datum} (hvalue : value.WellNamed)
    (h : ((word? word t).map fun rest => (value, rest)) = some (d, rest)) : d.WellNamed := by
  obtain ⟨_, _, hd⟩ := Option.map_eq_some_iff.mp h
  cases hd
  exact hvalue

/-- One more round keeps the names of tables different, because an entry is put under its name. -/
theorem ReadsWellNamed.succ {rounds : Nat} (ih : ReadsWellNamed rounds) :
    ReadsWellNamed (rounds + 1) where
  value := by
    intro room t d rest h
    rw [value?] at h
    split at h
    · cases h
    split at h
    · obtain ⟨_, _, hd⟩ := Option.map_eq_some_iff.mp h
      cases hd
      exact .text _
    split at h
    · cases h
    split at h
    · split at h
      · cases h
        exact .list (by simp)
      · obtain ⟨⟨items, _⟩, hitems, hd⟩ := Option.map_eq_some_iff.mp h
        cases hd
        exact .list (ih.items hitems)
    split at h
    · split at h
      · cases h
        exact .table List.nodup_nil (by simp)
      · obtain ⟨⟨entries, _⟩, hentries, hd⟩ := Option.map_eq_some_iff.mp h
        cases hd
        exact ih.entries hentries (.table List.nodup_nil (by simp))
    split at h
    · exact wellNamed_word? (.bool _) h
    split at h
    · exact wellNamed_word? (.bool _) h
    split at h
    · exact wellNamed_word? .null h
    · exact wellNamed_number? h
  items := by
    intro room t data rest h
    rw [items?] at h
    obtain ⟨⟨first, _⟩, hfirst, h⟩ := Option.bind_eq_some_iff.mp h
    have hfirst := ih.value hfirst
    dsimp only at h
    split at h
    · cases h
      simpa using hfirst
    · obtain ⟨⟨more, _⟩, hmore, h⟩ := Option.bind_eq_some_iff.mp h
      cases h
      exact List.forall_mem_cons.mpr ⟨hfirst, ih.items hmore⟩
    · cases h
  entries := by
    intro room before t entries rest h hbefore
    rw [entries?] at h
    split at h
    · obtain ⟨⟨name, _⟩, _, h⟩ := Option.bind_eq_some_iff.mp h
      dsimp only at h
      split at h
      · obtain ⟨⟨value, _⟩, hvalue, h⟩ := Option.bind_eq_some_iff.mp h
        have hput := hbefore.put (ih.value hvalue) name
        dsimp only at h
        split at h
        · cases h
          exact hput
        · exact ih.entries h hput
        · cases h
      · cases h
    · cases h

/-- Whatever the depth allowed, every datum that is read is well-named. -/
theorem readsWellNamed (rounds : Nat) : ReadsWellNamed rounds := by
  induction rounds with
  | zero => exact .zero
  | succ rounds ih => exact ih.succ

/-- The names of every table in what was read are all different. -/
theorem wellNamed_read {bytes : Bytes} {d : Datum} (h : read bytes = some d) : d.WellNamed := by
  rw [read] at h
  split at h
  · rename_i t _
    rw [readText] at h
    split at h
    · rename_i value _ hvalue
      split at h
      · cases h
        exact (readsWellNamed _).value hvalue
      · cases h
    · cases h
  · cases h

end Json

end StoryCatalog

import StoryCatalog.Proofs.Json.RoundTrip
import StoryCatalog.Proofs.Text.Utf8

/-!
# The characters of written JSON

The text that is written for a datum has no surrogates, and on one line it has no control characters
either (`admits_of_mem_writeAt`): those of a string are escaped. So its bytes are read back as the
datum (`read_writeAt`), and a line of data is one line of the file.
-/

namespace StoryCatalog

namespace Json

/-- A character that a layout writes: no surrogate, and on one line no control character. -/
def Layout.Admits (layout : Layout) (c : CodePoint) : Prop :=
  c.isSurrogate = false ∧ (layout = .compact → 0x20 ≤ c.val)

/-- Every layout admits what lies between the space and the surrogates. -/
theorem Layout.admits_of_range {layout : Layout} {c : CodePoint} (hlow : 0x20 ≤ c.val)
    (hhigh : c.val < 0xD800) : layout.Admits c := by
  refine ⟨?_, fun _ => hlow⟩
  simp only [CodePoint.isSurrogate, Bool.and_eq_false_iff, decide_eq_false_iff_not]
  omega

theorem admits_of_all {layout : Layout} {t : Text}
    (h : t.all (fun c => 0x20 ≤ c.val && c.val < 0xD800) = true) {c : CodePoint} (hc : c ∈ t) :
    layout.Admits c := by
  have hrange := List.all_eq_true.mp h c hc
  simp only [Bool.and_eq_true, decide_eq_true_eq] at hrange
  exact Layout.admits_of_range hrange.1 hrange.2

/-- A hexadecimal digit is neither a control character nor a surrogate. -/
theorem hexDigit_range (n : Nat) :
    0x20 ≤ (Text.hexDigit n).val ∧ (Text.hexDigit n).val < 0xD800 := by
  have hdigit : ∀ k < 16, 0x20 ≤ (CodePoint.ofChar ((Nat.toDigits 16 k).headD '0')).val ∧
      (CodePoint.ofChar ((Nat.toDigits 16 k).headD '0')).val < 0xD800 := by decide
  exact hdigit (n % 16) (Nat.mod_lt _ (by decide))

/-- An escape writes nothing that a layout would not admit. -/
theorem admits_of_mem_escaped {layout : Layout} {c d : CodePoint} (hc : c.isSurrogate = false)
    (h : d ∈ escaped c) : layout.Admits d := by
  by_cases hshort : c ∈ [0x22, 0x5C, 0x08, 0x09, 0x0A, 0x0C, 0x0D]
  · simp only [List.mem_cons, List.not_mem_nil, or_false] at hshort
    rcases hshort with rfl | rfl | rfl | rfl | rfl | rfl | rfl <;>
      exact admits_of_all (by decide) h
  · simp only [List.mem_cons, List.not_mem_nil, or_false, not_or] at hshort
    by_cases hcontrol : c.val < 0x20
    · have hescaped : escaped c = 0x5C :: 0x75 :: Text.hexField 4 c.val := by
        simp only [escaped, hshort, hcontrol, if_false, if_true]
        rfl
      rw [hescaped] at h
      simp only [Text.hexField, List.nil_append, List.cons_append, List.mem_cons, List.not_mem_nil,
        or_false] at h
      rcases h with rfl | rfl | rfl | rfl | rfl | rfl
      · exact Layout.admits_of_range (by decide) (by decide)
      · exact Layout.admits_of_range (by decide) (by decide)
      all_goals exact Layout.admits_of_range (hexDigit_range _).1 (hexDigit_range _).2
    · have hescaped : escaped c = [c] := by
        simp only [escaped, hshort, hcontrol, if_false]
      rw [hescaped, List.mem_singleton] at h
      rw [h]
      exact ⟨hc, fun _ => by omega⟩

/-- A text that could be written holds only what a layout admits. -/
theorem admits_of_mem_string {layout : Layout} {t written : Text} (h : string t = .ok written)
    {c : CodePoint} (hc : c ∈ written) : layout.Admits c := by
  obtain ⟨hscalar, rfl⟩ := eq_of_string_eq_ok h
  rw [List.mem_append, List.mem_cons, List.mem_singleton] at hc
  rcases hc with (rfl | hc) | rfl
  · exact Layout.admits_of_range (by decide) (by decide)
  · obtain ⟨d, hd, hc⟩ := List.mem_flatMap.mp hc
    have hsurrogate := List.all_eq_true.mp hscalar d hd
    exact admits_of_mem_escaped (by simpa using hsurrogate) hc
  · exact Layout.admits_of_range (by decide) (by decide)

theorem admits_of_isDigit {layout : Layout} {c : CodePoint} (h : isDigit c = true) :
    layout.Admits c := by
  simp only [isDigit, Bool.and_eq_true, decide_eq_true_eq] at h
  exact Layout.admits_of_range (by omega) (by omega)

/-- A written number holds only what a layout admits. -/
theorem admits_of_mem_ofInt {layout : Layout} {n : Int} {c : CodePoint} (h : c ∈ Text.ofInt n) :
    layout.Admits c := by
  cases n with
  | ofNat n => exact admits_of_isDigit (isDigit_of_mem_ofNat h)
  | negSucc n =>
      rw [Text.ofInt, List.mem_cons] at h
      rcases h with rfl | h
      · exact Layout.admits_of_range (by decide) (by decide)
      · exact admits_of_isDigit (isDigit_of_mem_ofNat h)

/-- The line ends of the indented layout are admitted by it. -/
theorem admits_of_mem_lineEnd {layout : Layout} {depth : Nat} {c : CodePoint}
    (h : c ∈ layout.lineEnd depth) : layout.Admits c := by
  cases layout with
  | compact => simp [Layout.lineEnd] at h
  | indented =>
      rw [Layout.lineEnd, List.mem_cons, List.mem_replicate] at h
      rcases h with rfl | ⟨_, rfl⟩
      · exact ⟨by decide, fun h => by cases h⟩
      · exact Layout.admits_of_range (by decide) (by decide)

/-- A character of joined parts comes from the separator or from one of the parts. -/
theorem mem_join {separator : Text} {parts : List Text} {c : CodePoint}
    (h : c ∈ Text.join separator parts) : c ∈ separator ∨ ∃ part ∈ parts, c ∈ part := by
  induction parts with
  | nil => simp [Text.join] at h
  | cons first rest ih =>
      cases rest with
      | nil =>
          rw [Text.join_singleton] at h
          exact .inr ⟨first, List.mem_cons_self, h⟩
      | cons second rest =>
          rw [Text.join_cons_cons, List.mem_append, List.mem_append] at h
          rcases h with h | h | h
          · exact .inr ⟨first, List.mem_cons_self, h⟩
          · exact .inl h
          · rcases ih h with h | ⟨part, hmem, h⟩
            · exact .inl h
            · exact .inr ⟨part, List.mem_cons_of_mem _ hmem, h⟩

/-- Brackets, separators and line ends around admitted texts are admitted too. -/
theorem admits_of_mem_enclose {layout : Layout} {depth : Nat} {opening closing : CodePoint}
    {texts : List Text} (hopening : layout.Admits opening) (hclosing : layout.Admits closing)
    (htexts : ∀ t ∈ texts, ∀ c ∈ t, layout.Admits c) {c : CodePoint}
    (h : c ∈ layout.enclose depth opening closing texts) : layout.Admits c := by
  cases texts with
  | nil =>
      simp only [Layout.enclose, List.isEmpty_nil, if_true, List.mem_cons, List.not_mem_nil,
        or_false] at h
      rcases h with rfl | rfl
      · exact hopening
      · exact hclosing
  | cons t texts =>
      have happend := enclose_append layout depth opening closing (List.cons_ne_nil t texts) []
      rw [List.append_nil] at happend
      rw [happend] at h
      simp only [List.mem_cons, List.mem_append, List.not_mem_nil, or_false] at h
      -- the mark, a line end, the items with commas between them, a line end, and the other mark
      rcases h with rfl | h | h | h | rfl
      · exact hopening
      · exact admits_of_mem_lineEnd h
      · rcases mem_join h with h | ⟨part, hmem, h⟩
        · rcases List.mem_cons.mp h with rfl | h
          · exact Layout.admits_of_range (by decide) (by decide)
          · exact admits_of_mem_lineEnd h
        · exact htexts part hmem c h
      · exact admits_of_mem_lineEnd h
      · exact hclosing

/-- Every character that is written for a plain datum is one that the layout admits. -/
theorem admits_of_mem_writeAt {layout : Layout} {d : Datum} (h : d.Plain) {depth : Nat} {t : Text}
    (ht : writeAt layout depth d = .ok t) {c : CodePoint} (hc : c ∈ t) : layout.Admits c := by
  induction h generalizing depth t c with
  | null =>
      cases ht
      exact admits_of_all (by decide) hc
  | bool value =>
      cases ht
      cases value with
      | false => exact admits_of_all (t := Text.ofString "false") (by decide) hc
      | true => exact admits_of_all (t := Text.ofString "true") (by decide) hc
  | integer value =>
      rw [writeAt, integer] at ht
      split at ht
      · cases ht
        exact admits_of_mem_ofInt hc
      · cases ht
  | text value => exact admits_of_mem_string ht hc
  | @list items hitems ih =>
      obtain ⟨_, texts, htexts, rfl⟩ := writeAt_list ht
      refine admits_of_mem_enclose (Layout.admits_of_range (by decide) (by decide))
        (Layout.admits_of_range (by decide) (by decide)) ?_ hc
      intro t hmem d hd
      obtain ⟨item, hitem, hwritten⟩ := exists_of_forall₂_of_mem (forall₂_writeItems htexts) hmem
      exact ih item hitem hwritten hd
  | @table entries _ hentries ih =>
      obtain ⟨_, texts, htexts, rfl⟩ := writeAt_table ht
      rw [writeEntries_eq] at htexts
      have hwritten := forall₂_entries htexts
      rw [sortByName_map, List.forall₂_map_right_iff] at hwritten
      refine admits_of_mem_enclose (Layout.admits_of_range (by decide) (by decide))
        (Layout.admits_of_range (by decide) (by decide)) ?_ hc
      intro t hmem d hd
      obtain ⟨entry, hentry, key, inner, hkey, hinner, rfl⟩ :=
        exists_of_forall₂_of_mem hwritten hmem
      rw [List.mem_append, List.mem_append] at hd
      rcases hd with (hd | hd) | hd
      · exact admits_of_mem_string hkey hd
      · cases layout with
        | compact => exact admits_of_all (t := Layout.compact.colon) (by decide) hd
        | indented => exact admits_of_all (t := Layout.indented.colon) (by decide) hd
      · exact ih entry ((sortByName_perm entries).mem_iff.mp hentry) hinner hd

/-- What is written of a plain datum holds no surrogate, so it can be encoded. -/
theorem isScalar_writeAt {layout : Layout} {d : Datum} (h : d.Plain) {depth : Nat} {t : Text}
    (ht : writeAt layout depth d = .ok t) : t.isScalar = true :=
  List.all_eq_true.mpr fun _ hc => by simp [(admits_of_mem_writeAt h ht hc).1]

/-- The bytes that are written for a plain datum are read back as its canonical form. -/
theorem read_writeAt {layout : Layout} {d : Datum} (h : d.Plain) {t : Text}
    (ht : writeAt layout 0 d = .ok t) : read t.utf8 = some d.canonical := by
  rw [read, Utf8.decode_utf8 (isScalar_writeAt h ht)]
  exact readText_writeAt h ht

end Json

end StoryCatalog

import Mathlib.Data.List.Induction
import Mathlib.Data.List.TakeWhile
import StoryCatalog.Location.LineIndex
import StoryCatalog.Location.PointTable
import StoryCatalog.Proofs.Text.Utf8

/-!
# Both ways of finding a position agree

`Text.positionAt` says what the position of a character offset is: one more than the newlines before
it, and one more than the characters since the last of them. A line index finds this position by
bisection (`LineIndex.resolve_ofText`). A point table finds it from the bytes of the text, at the
byte offset that corresponds (`bytePosition_utf8`), for every offset that was recorded
(`PointTable.resolve_foldl_recordSpan`). So both find the same position, whichever other offsets
were recorded and in whatever order (`PointTable.resolve_recordAll_eq_resolve_ofText`).
-/

namespace StoryCatalog

namespace Text

/-- The characters behind the last newline. -/
def lastLine (t : Text) : Text :=
  (t.reverse.takeWhile (· ≠ CodePoint.newline)).reverse

/-- The position of a character offset. -/
def positionAt (t : Text) (offset : Nat) : Position :=
  ⟨((t.take offset).count CodePoint.newline : Nat) + 1, (lastLine (t.take offset)).length + 1⟩

/-- Behind a line end the last line is empty. -/
theorem lastLine_append_newline (t : Text) : lastLine (t ++ [CodePoint.newline]) = [] := by
  simp [lastLine]

/-- Any other character belongs to the last line. -/
theorem lastLine_append_of_ne (t : Text) {c : CodePoint} (h : c ≠ CodePoint.newline) :
    lastLine (t ++ [c]) = lastLine t ++ [c] := by
  simp [lastLine, h]

/-- What stands before the last line is empty or ends in a newline. -/
theorem exists_eq_append_lastLine (t : Text) :
    t = lastLine t ∨ ∃ before, t = before ++ CodePoint.newline :: lastLine t := by
  induction t using List.reverseRec with
  | nil => exact .inl rfl
  | append_singleton t c ih =>
      by_cases h : c = CodePoint.newline
      · subst h
        exact .inr ⟨t, by rw [lastLine_append_newline]⟩
      · rw [lastLine_append_of_ne t h]
        rcases ih with heq | ⟨before, heq⟩
        · exact .inl (by rw [← heq])
        · refine .inr ⟨before, ?_⟩
          conv_lhs => rw [heq]
          simp

/-- The last line has no line end in it. -/
theorem newline_not_mem_lastLine (t : Text) : CodePoint.newline ∉ lastLine t := by
  intro h
  have := List.mem_takeWhile_imp (List.mem_reverse.mp h)
  simp at this

end Text

namespace LineIndex

/-- The lines of two texts start where those of each of them do. -/
theorem startsAfter_append (offset : Nat) (first second : Text) :
    startsAfter offset (first ++ second) =
      startsAfter offset first ++ startsAfter (offset + first.length) second := by
  induction first generalizing offset with
  | nil => rfl
  | cons c rest ih =>
      simp only [List.cons_append, startsAfter, ih, List.length_cons]
      rw [Nat.add_right_comm, Nat.add_assoc offset]
      split <;> rfl

/-- There is a line behind every line end. -/
theorem length_startsAfter (offset : Nat) (t : Text) :
    (startsAfter offset t).length = t.count CodePoint.newline := by
  induction t generalizing offset with
  | nil => rfl
  | cons c rest ih =>
      by_cases h : c = CodePoint.newline
      · simp [startsAfter, h, ih]
      · simp [startsAfter, h, ih]

/-- A line starts behind a newline, so not before the next offset and not behind the text. -/
theorem bounds_of_mem_startsAfter {offset start : Nat} {t : Text}
    (h : start ∈ startsAfter offset t) :
    offset < start ∧ start ≤ offset + t.length := by
  induction t generalizing offset with
  | nil => simp [startsAfter] at h
  | cons c rest ih =>
      simp only [startsAfter] at h
      simp only [List.length_cons]
      split at h
      · rcases List.mem_cons.mp h with rfl | h
        · omega
        · have := ih h
          omega
      · have := ih h
        omega

/-- The last line starts where the last newline ends. -/
theorem getLast_startsAfter (offset : Nat) (t : Text) :
    (startsAfter offset t).getLast?.getD offset + (Text.lastLine t).length = offset + t.length := by
  induction t using List.reverseRec with
  | nil => rfl
  | append_singleton t c ih =>
      rw [startsAfter_append]
      by_cases h : c = CodePoint.newline
      · subst h
        simp [startsAfter, Text.lastLine_append_newline]
        omega
      · rw [Text.lastLine_append_of_ne t h]
        simp [startsAfter, h]
        omega

/-- Bisection finds how many starts are at most the offset, provided that those come first. -/
theorem bisect_eq {starts : Array Nat} {offset count : Nat}
    (hbelow : ∀ i < count, starts.getD i 0 ≤ offset)
    (habove : ∀ i, count ≤ i → i < starts.size → offset < starts.getD i 0) (low high : Nat)
    (hlow : low ≤ count) (hhigh : count ≤ high) (hsize : high ≤ starts.size) :
    bisect starts offset low high = count := by
  fun_induction bisect starts offset low high with
  | case1 low high hlt middle hless ih =>
      have hmiddle : count ≤ middle := by
        by_contra hnot
        have := hbelow middle (by omega)
        omega
      exact ih hlow hmiddle (by omega)
  | case2 low high hlt middle hless ih =>
      have hmiddle : middle < count := by
        by_contra hnot
        have := habove middle (by omega) (by omega)
        omega
      exact ih hmiddle hhigh hsize
  | case3 low high hlt => omega

/-- The starts up to an offset are those of the text before it, and come first. -/
theorem starts_eq (t : Text) {k : Nat} (h : k ≤ t.length) :
    (ofText t).starts =
      ((0 :: startsAfter 0 (t.take k)) ++ startsAfter k (t.drop k)).toArray := by
  have hsplit : startsAfter 0 t = startsAfter 0 (t.take k) ++ startsAfter k (t.drop k) := by
    conv_lhs => rw [← List.take_append_drop k t, startsAfter_append]
    rw [List.length_take, Nat.min_eq_left h, Nat.zero_add]
  rw [ofText, hsplit, List.cons_append]

/-- Bisection finds the number of newlines before an offset, and one more. -/
theorem bisect_starts (t : Text) {k : Nat} (h : k ≤ t.length) :
    bisect (ofText t).starts k 0 (ofText t).starts.size =
      (t.take k).count CodePoint.newline + 1 := by
  have hcount : (0 :: startsAfter 0 (t.take k)).length =
      (t.take k).count CodePoint.newline + 1 := by
    rw [List.length_cons, length_startsAfter]
  rw [← hcount]
  refine bisect_eq ?_ ?_ 0 _ (Nat.zero_le _) ?_ (Nat.le_refl _)
  · intro i hi
    rw [starts_eq t h, Array.getD_eq_getD_getElem?, List.getElem?_toArray,
      List.getElem?_append_left hi, List.getElem?_eq_getElem hi, Option.getD_some]
    rcases List.mem_cons.mp (List.getElem_mem hi) with hzero | hmem
    · omega
    · have := (bounds_of_mem_startsAfter hmem).2
      rw [List.length_take] at this
      omega
  · intro i hi hsize
    rw [starts_eq t h, List.size_toArray] at hsize
    rw [starts_eq t h, Array.getD_eq_getD_getElem?, List.getElem?_toArray,
      List.getElem?_eq_getElem hsize, Option.getD_some, List.getElem_append_right hi]
    exact (bounds_of_mem_startsAfter (List.getElem_mem _)).1
  · rw [starts_eq t h, List.size_toArray, List.length_append]
    omega

/-- The start of the line of an offset. -/
theorem getD_starts (t : Text) {k : Nat} (h : k ≤ t.length) :
    (ofText t).starts.getD ((t.take k).count CodePoint.newline) 0 +
      (Text.lastLine (t.take k)).length = k := by
  have hlast := getLast_startsAfter 0 (t.take k)
  rw [List.length_take, Nat.min_eq_left h, Nat.zero_add] at hlast
  have hget : (0 :: startsAfter 0 (t.take k))[(startsAfter 0 (t.take k)).length]? =
      some ((startsAfter 0 (t.take k)).getLast?.getD 0) := by
    rw [← List.getLast?_cons, List.getLast?_eq_getElem?, List.length_cons, Nat.add_sub_cancel]
  rw [← length_startsAfter 0, starts_eq t h, Array.getD_eq_getD_getElem?, List.getElem?_toArray,
    List.getElem?_append_left (by simp), hget, Option.getD_some, hlast]

/-- A line index finds the position of every offset of its text. -/
theorem resolve_ofText (t : Text) {k : Nat} (h : k ≤ t.length) :
    (ofText t).resolve k = .ok (t.positionAt k) := by
  have hstart := getD_starts t h
  have hbounds : ¬((k : Int) < 0 ∨ ((ofText t).length : Int) < k) := by
    have : (ofText t).length = t.length := rfl
    omega
  rw [resolve, if_neg hbounds]
  simp only [Int.toNat_natCast, bisect_starts t h, Nat.add_sub_cancel, Text.positionAt]
  congr 2
  omega

end LineIndex

/-- The position of a byte offset. -/
def bytePosition (source : Bytes) (offset : Int) : Position :=
  ⟨(pointAt source offset).row + 1, charColumn source offset (pointAt source offset).column⟩

/-- The newline byte belongs to the newline and to no other code point. -/
theorem CodePoint.newlineByte_mem_utf8 {c : CodePoint} :
    newlineByte ∈ c.utf8 ↔ c = CodePoint.newline := by
  rw [mem_utf8_iff (by decide), Fin.ext_iff]
  exact eq_comm

theorem CodePoint.utf8_newline : CodePoint.newline.utf8 = [newlineByte] := by
  decide

/-- The byte of a line end comes from a line end only. -/
theorem Text.newlineByte_mem_utf8 {t : Text} : newlineByte ∈ t.utf8 ↔ CodePoint.newline ∈ t := by
  simp [utf8, CodePoint.newlineByte_mem_utf8]

/-- A text has as many newline bytes as newlines. -/
theorem Text.count_utf8 (t : Text) : t.utf8.count newlineByte = t.count CodePoint.newline := by
  induction t with
  | nil => rfl
  | cons c rest ih =>
      rw [utf8_cons, List.count_append, ih]
      by_cases h : c = CodePoint.newline
      · rw [h, CodePoint.utf8_newline, List.count_singleton_self, List.count_cons_self,
          Nat.add_comm]
      · rw [List.count_eq_zero.mpr (mt CodePoint.newlineByte_mem_utf8.mp h), Nat.zero_add,
          List.count_cons_of_ne h]

/-- The bytes behind the last newline byte are those of the last line. -/
theorem Text.takeWhile_reverse_utf8 (t : Text) :
    t.utf8.reverse.takeWhile (· ≠ newlineByte) = (lastLine t).utf8.reverse := by
  have hall : ∀ b ∈ (lastLine t).utf8.reverse, decide (b ≠ newlineByte) = true := by
    intro b hb
    have hnot : newlineByte ∉ (lastLine t).utf8 :=
      mt newlineByte_mem_utf8.mp (newline_not_mem_lastLine t)
    rw [decide_eq_true_eq]
    rintro rfl
    exact hnot (List.mem_reverse.mp hb)
  rcases exists_eq_append_lastLine t with heq | ⟨before, heq⟩
  · conv_lhs => rw [heq]
    rw [List.takeWhile_eq_self_iff]
    exact hall
  · conv_lhs => rw [heq, utf8_append, utf8_cons, CodePoint.utf8_newline]
    rw [List.reverse_append, List.reverse_append, List.append_assoc,
      List.takeWhile_append_of_pos hall]
    simp

theorem placeOf_natCast {α : Type} (xs : List α) (n : Nat) : placeOf xs n = n := by
  rw [placeOf, if_neg (by omega), Int.toNat_natCast]

/-- At the byte offset behind some characters the position is the one behind these characters. -/
theorem bytePosition_utf8 {t : Text} (h : t.isScalar = true) (k : Nat) :
    bytePosition t.utf8 (Text.utf8 (t.take k)).length = t.positionAt k := by
  have hpoint : pointAt t.utf8 (Text.utf8 (t.take k)).length =
      ⟨((t.take k).count CodePoint.newline : Nat),
        ((Text.lastLine (t.take k)).utf8.length : Nat)⟩ := by
    rw [pointAt, placeOf_natCast, Text.take_utf8, Text.count_utf8, Text.takeWhile_reverse_utf8,
      List.length_reverse]
  obtain ⟨before, hbefore⟩ : ∃ before, t.take k = before ++ Text.lastLine (t.take k) := by
    rcases Text.exists_eq_append_lastLine (t.take k) with heq | ⟨before, heq⟩
    · exact ⟨[], heq⟩
    · exact ⟨before ++ [CodePoint.newline], by rw [List.append_assoc]; exact heq⟩
  have hbytes : Text.utf8 (t.take k) = Text.utf8 before ++ (Text.lastLine (t.take k)).utf8 := by
    rw [← Text.utf8_append, ← hbefore]
  have hslice : slice t.utf8
      ((Text.utf8 (t.take k)).length - ((Text.lastLine (t.take k)).utf8.length : Nat))
      (Text.utf8 (t.take k)).length = (Text.lastLine (t.take k)).utf8 := by
    have hstart : ((Text.utf8 (t.take k)).length : Int)
        - ((Text.lastLine (t.take k)).utf8.length : Nat) = (Text.utf8 before).length := by
      rw [hbytes, List.length_append]
      omega
    rw [hstart, slice, placeOf_natCast, placeOf_natCast, ← List.drop_take, Text.take_utf8, hbytes,
      List.drop_left]
  have hscalar : (Text.lastLine (t.take k)).isScalar = true := by
    refine Text.isScalar_of_mem h ?_
    intro c hc
    refine List.mem_of_mem_take (i := k) ?_
    rw [hbefore]
    exact List.mem_append_right _ hc
  rw [bytePosition, hpoint, charColumn, hslice, Utf8.decodeReplacing,
    Utf8.decodeWith_utf8 _ hscalar]
  rfl

namespace PointTable

/-- Removing the entries of another offset does not change what an offset has. -/
theorem lookup_filter_ne {entries : List (Int × Position)} {offset other : Int}
    (h : other ≠ offset) :
    (entries.filter fun entry => entry.1 ≠ offset).lookup other = entries.lookup other := by
  induction entries with
  | nil => rfl
  | cons entry rest ih =>
      obtain ⟨key, position⟩ := entry
      by_cases hkey : key = offset
      · subst hkey
        rw [List.filter_cons_of_neg (by simp), ih, List.lookup_cons, beq_false_of_ne h]
      · rw [List.filter_cons_of_pos (by simpa using hkey), List.lookup_cons, List.lookup_cons, ih]

/-- Recording an offset sets its entry and leaves the others alone. -/
theorem lookup_record (table : PointTable) (offset other : Int) (point : Point) :
    (table.record offset point).entries.lookup other =
      if other = offset then some ⟨point.row + 1, charColumn table.source offset point.column⟩
      else table.entries.lookup other := by
  unfold record
  split
  · rename_i heq
    simp [heq]
  · rename_i hne
    rw [List.lookup_cons, beq_false_of_ne hne]
    exact lookup_filter_ne hne

/-- The table is over a source, and an offset that has an entry has its position. -/
structure Faithful (table : PointTable) (source : Bytes) : Prop where
  source_eq : table.source = source
  lookup_eq : ∀ {offset position}, table.entries.lookup offset = some position →
    position = bytePosition source offset

variable {table : PointTable} {source : Bytes}

/-- A table that nothing was recorded in is faithful. -/
theorem Faithful.empty (source : Bytes) : (PointTable.empty source).Faithful source where
  source_eq := rfl
  lookup_eq := by
    intro offset position h
    simp [PointTable.empty] at h

/-- Recording the point of an offset keeps a table faithful. -/
theorem Faithful.record (h : table.Faithful source) (offset : Int) :
    (table.record offset (pointAt table.source offset)).Faithful source where
  source_eq := h.source_eq
  lookup_eq := by
    intro other position hlookup
    rw [lookup_record, h.source_eq] at hlookup
    split at hlookup
    · rename_i heq
      cases hlookup
      rw [heq]
      rfl
    · exact h.lookup_eq hlookup

/-- So does recording both ends of a span. -/
theorem Faithful.recordSpan (h : table.Faithful source) (span : Span) :
    (table.recordSpan span).Faithful source :=
  (h.record span.start).record span.stop

/-- So does recording any spans. -/
theorem Faithful.foldl_recordSpan (h : table.Faithful source) (spans : List Span) :
    (spans.foldl PointTable.recordSpan table).Faithful source := by
  induction spans generalizing table with
  | nil => exact h
  | cons span rest ih => exact ih (h.recordSpan span)

/-- A faithful table resolves what was recorded to its position. -/
theorem Faithful.resolve (h : table.Faithful source) {offset : Int}
    (hrecorded : (table.entries.lookup offset).isSome = true) :
    table.resolve offset = .ok (bytePosition source offset) := by
  obtain ⟨position, hlookup⟩ := Option.isSome_iff_exists.mp hrecorded
  rw [PointTable.resolve, hlookup, h.lookup_eq hlookup]

/-- An offset that has an entry keeps one. -/
theorem isSome_lookup_recordSpan {offset : Int} (span : Span)
    (h : (table.entries.lookup offset).isSome = true ∨ span.stop = offset) :
    ((table.recordSpan span).entries.lookup offset).isSome = true := by
  rw [recordSpan, lookup_record, lookup_record]
  rcases h with h | h
  · split
    · rfl
    · split
      · rfl
      · exact h
  · rw [if_pos h.symm]
    rfl

/-- Recording spans gives an entry to the end of each of them. -/
theorem isSome_lookup_foldl_recordSpan {offset : Int} (spans : List Span)
    (h : (table.entries.lookup offset).isSome = true ∨ ∃ span ∈ spans, span.stop = offset) :
    ((spans.foldl recordSpan table).entries.lookup offset).isSome = true := by
  induction spans generalizing table with
  | nil => simpa using h
  | cons span rest ih =>
      rw [List.foldl_cons]
      refine ih ?_
      rcases h with h | ⟨found, hmem, hstop⟩
      · exact .inl (isSome_lookup_recordSpan span (.inl h))
      · rcases List.mem_cons.mp hmem with rfl | hmem
        · exact .inl (isSome_lookup_recordSpan found (.inr hstop))
        · exact .inr ⟨found, hmem, hstop⟩

/-- The end of a recorded span resolves to its position. -/
theorem resolve_foldl_recordSpan (source : Bytes) {spans : List Span} {span : Span}
    (h : span ∈ spans) :
    (spans.foldl recordSpan (.empty source)).resolve span.stop =
      .ok (bytePosition source span.stop) :=
  ((Faithful.empty source).foldl_recordSpan spans).resolve
    (isSome_lookup_foldl_recordSpan spans (.inr ⟨span, h, rfl⟩))

/-! ## Offsets recorded one by one -/

/-- The table after offsets and their points have been recorded, one after another. -/
def recordAll (table : PointTable) (records : List (Int × Point)) : PointTable :=
  records.foldl (fun table r => table.record r.1 r.2) table

/-- A table stays faithful when every offset is recorded with the point that the source has there,
whatever the order and however often. -/
theorem Faithful.recordAll (h : table.Faithful source) {records : List (Int × Point)}
    (hpoints : ∀ r ∈ records, r.2 = pointAt source r.1) :
    (table.recordAll records).Faithful source := by
  induction records generalizing table with
  | nil => exact h
  | cons r rest ih =>
      have hfirst : (table.record r.1 r.2).Faithful source := by
        have hpoint : r.2 = pointAt table.source r.1 := by
          rw [h.source_eq]
          exact hpoints r List.mem_cons_self
        rw [hpoint]
        exact h.record r.1
      exact ih hfirst fun r hr => hpoints r (List.mem_cons_of_mem _ hr)

/-- An offset has an entry if it had one before or is among the recorded ones. -/
theorem isSome_lookup_recordAll {offset : Int} (records : List (Int × Point))
    (h : (table.entries.lookup offset).isSome = true ∨ offset ∈ records.map Prod.fst) :
    ((table.recordAll records).entries.lookup offset).isSome = true := by
  induction records generalizing table with
  | nil => simpa [PointTable.recordAll] using h
  | cons r rest ih =>
      have hstep : ((table.record r.1 r.2).entries.lookup offset).isSome = true ∨
          offset ∈ rest.map Prod.fst := by
        rw [lookup_record]
        rcases h with h | h
        · left
          split
          · rfl
          · exact h
        · rcases List.mem_cons.mp h with rfl | h
          · exact .inl (by rw [if_pos rfl]; rfl)
          · exact .inr h
      exact ih hstep

/-- For every text and every character offset of it: once the byte offset that corresponds has been
recorded, among any others and each with its own point, the point table gives it the position that
the line index gives to the character offset. Neither of them fails. -/
theorem resolve_recordAll_eq_resolve_ofText {t : Text} (hscalar : t.isScalar = true) {k : Nat}
    (hk : k ≤ t.length) {records : List (Int × Point)}
    (hpoints : ∀ r ∈ records, r.2 = pointAt t.utf8 r.1)
    (hrecorded : ((Text.utf8 (t.take k)).length : Int) ∈ records.map Prod.fst) :
    ((empty t.utf8).recordAll records).resolve (Text.utf8 (t.take k)).length =
        (LineIndex.ofText t).resolve k ∧
      (LineIndex.ofText t).resolve k = .ok (t.positionAt k) := by
  have hindex := LineIndex.resolve_ofText t hk
  have htable := ((Faithful.empty t.utf8).recordAll hpoints).resolve
    (isSome_lookup_recordAll records (.inr hrecorded))
  refine ⟨?_, hindex⟩
  rw [htable, hindex, bytePosition_utf8 hscalar]

/-- Behind a character of two bytes, a newline and a character of four bytes: the second line,
second column. The offset was recorded twice, and another one in between. -/
theorem resolve_recordAll_astral :
    ((empty (Text.utf8 "é\n😀x")).recordAll
        [(7, ⟨1, 4⟩), (2, ⟨0, 2⟩), (7, ⟨1, 4⟩), (0, ⟨0, 0⟩)]).resolve 7 = .ok ⟨2, 2⟩ ∧
      (LineIndex.ofText "é\n😀x").resolve 3 = .ok ⟨2, 2⟩ := by
  have hpoints : ∀ r ∈ ([(7, ⟨1, 4⟩), (2, ⟨0, 2⟩), (7, ⟨1, 4⟩), (0, ⟨0, 0⟩)] : List (Int × Point)),
      r.2 = pointAt (Text.utf8 "é\n😀x") r.1 := by
    decide
  have h := resolve_recordAll_eq_resolve_ofText (t := "é\n😀x") (k := 3) (by decide) (by decide)
    hpoints (by decide)
  have hposition : Text.positionAt "é\n😀x" 3 = ⟨2, 2⟩ := by decide
  rw [hposition] at h
  exact ⟨h.1.trans h.2, h.2⟩

end PointTable

end StoryCatalog

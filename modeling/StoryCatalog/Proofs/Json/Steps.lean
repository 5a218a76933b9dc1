import StoryCatalog.Proofs.Json.Scalar

/-!
# The steps of reading JSON

What the reader does at the front of a text, one lemma for each kind of datum. Blanks in front of a
datum change nothing (`value?_blanks_append`), and lists and tables are read item by item.
-/

namespace StoryCatalog

namespace Json

/-- Every character is a blank. -/
def AllBlank (t : Text) : Prop :=
  ∀ c ∈ t, isBlank c = true

/-- All blanks in front are skipped. -/
theorem skipBlanks_append {blanks : Text} (h : AllBlank blanks) (t : Text) :
    skipBlanks (blanks ++ t) = skipBlanks t :=
  List.dropWhile_append_of_pos h

/-- What is no blank is not skipped. -/
theorem skipBlanks_cons {c : CodePoint} (h : isBlank c = false) (t : Text) :
    skipBlanks (c :: t) = c :: t := by
  rw [skipBlanks, List.dropWhile_cons, if_neg (by simp [h])]

variable {rounds room : Nat} {rest : Text}

/-- Blanks before a value are skipped. -/
theorem value?_blanks_append {blanks : Text} (h : AllBlank blanks) (t : Text) :
    value? rounds room (blanks ++ t) = value? rounds room t := by
  rw [value?.eq_def, value?.eq_def rounds room t]
  cases rounds with
  | zero => rfl
  | succ rounds => simp only [skipBlanks_append h]

/-- A quotation mark starts a text. -/
theorem value?_string :
    value? (rounds + 1) room (0x22 :: rest) =
      (string? rest).map fun found => (.text found.1, found.2) := by
  rw [value?.eq_def]
  rfl

theorem word?_append (word rest : Text) : word? word (word ++ rest) = some rest := by
  rw [word?, if_pos (List.isPrefixOf_iff_prefix.mpr (List.prefix_append _ _)), List.drop_left]

/-- A datum that starts with none of the marks of strings, lists and tables is a word or a
number. -/
theorem value?_plain {c : CodePoint}
    (h : c ∉ ([0x20, 0x09, 0x0A, 0x0D, 0x22, 0x5B, 0x7B] : Text)) :
    value? (rounds + 1) room (c :: rest) =
      if c = 0x74 then (word? "true" (c :: rest)).map fun rest => (.bool true, rest)
      else if c = 0x66 then (word? "false" (c :: rest)).map fun rest => (.bool false, rest)
      else if c = 0x6E then (word? "null" (c :: rest)).map fun rest => (.null, rest)
      else number? (c :: rest) := by
  simp only [List.mem_cons, List.not_mem_nil, or_false, not_or] at h
  have hblank : isBlank c = false := by simp [isBlank, h]
  rw [value?.eq_def]
  simp only [skipBlanks_cons hblank, h, decide_false, Bool.or_self, Bool.and_false,
    Bool.false_eq_true, if_false]

theorem value?_null : value? (rounds + 1) room (("null" : Text) ++ rest) = some (.null, rest) := by
  have hword := word?_append "null" rest
  have htext : Text.ofString "null" = [0x6E, 0x75, 0x6C, 0x6C] := by decide
  rw [htext] at hword ⊢
  rw [List.cons_append, value?_plain (by decide), if_neg (by decide), if_neg (by decide),
    if_pos rfl, htext]
  exact congrArg (Option.map fun rest => (Datum.null, rest)) hword

theorem value?_bool (b : Bool) :
    value? (rounds + 1) room ((if b then ("true" : Text) else "false") ++ rest) =
      some (.bool b, rest) := by
  cases b with
  | false =>
      have hword := word?_append "false" rest
      have htext : Text.ofString "false" = [0x66, 0x61, 0x6C, 0x73, 0x65] := by decide
      rw [if_neg (by decide)]
      rw [htext] at hword ⊢
      rw [List.cons_append, value?_plain (by decide), if_neg (by decide), if_pos rfl, htext]
      exact congrArg (Option.map fun rest => (Datum.bool false, rest)) hword
  | true =>
      have hword := word?_append "true" rest
      have htext : Text.ofString "true" = [0x74, 0x72, 0x75, 0x65] := by decide
      rw [if_pos rfl]
      rw [htext] at hword ⊢
      rw [List.cons_append, value?_plain (by decide), if_pos rfl, htext]
      exact congrArg (Option.map fun rest => (Datum.bool true, rest)) hword

/-- The character starts a number: it is a digit or a minus sign. -/
def StartsNumber (c : CodePoint) : Prop :=
  isDigit c = true ∨ c = 0x2D

instance (c : CodePoint) : Decidable (StartsNumber c) :=
  inferInstanceAs (Decidable (_ ∨ _))

/-- A character that starts a number differs from all that do not. -/
theorem StartsNumber.ne {c d : CodePoint} (h : StartsNumber c) (hd : ¬StartsNumber d) : c ≠ d := by
  rintro rfl
  exact hd h

/-- A character that starts a number is left to the reader of numbers. -/
theorem value?_number {c : CodePoint} (h : StartsNumber c) :
    value? (rounds + 1) room (c :: rest) = number? (c :: rest) := by
  rw [value?_plain, if_neg (h.ne (by decide)), if_neg (h.ne (by decide)), if_neg (h.ne (by decide))]
  simp only [List.mem_cons, List.not_mem_nil, or_false, not_or]
  exact ⟨h.ne (by decide), h.ne (by decide), h.ne (by decide), h.ne (by decide), h.ne (by decide),
    h.ne (by decide), h.ne (by decide)⟩

/-- Two brackets are an empty list. -/
theorem value?_list_nil : value? (rounds + 1) (room + 1) (0x5B :: 0x5D :: rest) =
    some (.list [], rest) := by
  rw [value?.eq_def]
  rfl

/-- The items of a list start with a character that does not close it. -/
theorem value?_list {t : Text} (hskip : skipBlanks rest = t) (hhead : t.head? ≠ some 0x5D) :
    value? (rounds + 1) (room + 1) (0x5B :: rest) =
      (items? rounds room t).map fun found => (.list found.1, found.2) := by
  rw [value?.eq_def]
  have hopen : skipBlanks (0x5B :: rest) = 0x5B :: rest := rfl
  simp only [hopen, hskip]
  rw [if_neg (by decide), if_neg (by simp), if_pos trivial]
  split
  · exact absurd rfl hhead
  · rfl

/-- Two braces are an empty table. -/
theorem value?_table_nil : value? (rounds + 1) (room + 1) (0x7B :: 0x7D :: rest) =
    some (.table [], rest) := by
  rw [value?.eq_def]
  rfl

/-- The entries of a table start with a character that does not close it. -/
theorem value?_table {t : Text} (hskip : skipBlanks rest = t) (hhead : t.head? ≠ some 0x7D) :
    value? (rounds + 1) (room + 1) (0x7B :: rest) =
      (entries? rounds room [] t).map fun found => (.table found.1, found.2) := by
  rw [value?.eq_def]
  have hopen : skipBlanks (0x7B :: rest) = 0x7B :: rest := rfl
  simp only [hopen, hskip]
  rw [if_neg (by decide), if_neg (by simp), if_neg (by decide), if_pos trivial]
  split
  · exact absurd rfl hhead
  · rfl

/-- The last item of a list. -/
theorem items?_last {t after : Text} {d : Datum} (hvalue : value? rounds room t = some (d, after))
    (hskip : skipBlanks after = 0x5D :: rest) :
    items? (rounds + 1) room t = some ([d], rest) := by
  rw [items?.eq_def]
  simp only [hvalue, Option.bind_eq_bind, Option.bind_some, hskip]
  rfl

/-- An item of a list that others follow. -/
theorem items?_more {t after : Text} {d : Datum} (hvalue : value? rounds room t = some (d, after))
    (hskip : skipBlanks after = 0x2C :: rest) :
    items? (rounds + 1) room t =
      (items? rounds room rest).map fun found => (d :: found.1, found.2) := by
  rw [items?.eq_def]
  simp only [hvalue, Option.bind_eq_bind, Option.bind_some, hskip]
  cases items? rounds room rest <;> rfl

/-- Blanks before the items of a list are skipped. -/
theorem items?_blanks_append {blanks : Text} (h : AllBlank blanks) (t : Text) :
    items? rounds room (blanks ++ t) = items? rounds room t := by
  rw [items?.eq_def, items?.eq_def rounds room t]
  cases rounds with
  | zero => rfl
  | succ rounds => simp only [value?_blanks_append h]

section

variable {before : List (Text × Datum)} {name after : Text} {value : Datum}

/-- The last entry of a table. -/
theorem entries?_last {t inner : Text} (hname : string? t = some (name, 0x3A :: inner))
    (hvalue : value? rounds room inner = some (value, after))
    (hskip : skipBlanks after = 0x7D :: rest) :
    entries? (rounds + 1) room before (0x22 :: t) = some (Datum.put name value before, rest) := by
  rw [entries?.eq_def]
  have hopen : skipBlanks (0x22 :: t) = 0x22 :: t := rfl
  have hcolon : skipBlanks (0x3A :: inner) = 0x3A :: inner := rfl
  simp only [hopen, hname, hcolon, hvalue, hskip, Option.bind_eq_bind, Option.bind_some]
  rfl

/-- An entry of a table that others follow. -/
theorem entries?_more {t inner : Text} (hname : string? t = some (name, 0x3A :: inner))
    (hvalue : value? rounds room inner = some (value, after))
    (hskip : skipBlanks after = 0x2C :: rest) :
    entries? (rounds + 1) room before (0x22 :: t) =
      entries? rounds room (Datum.put name value before) rest := by
  rw [entries?.eq_def]
  have hopen : skipBlanks (0x22 :: t) = 0x22 :: t := rfl
  have hcolon : skipBlanks (0x3A :: inner) = 0x3A :: inner := rfl
  simp only [hopen, hname, hcolon, hvalue, hskip, Option.bind_eq_bind, Option.bind_some]

/-- Blanks before the entries of a table are skipped. -/
theorem entries?_blanks_append {blanks : Text} (h : AllBlank blanks) (t : Text) :
    entries? rounds room before (blanks ++ t) = entries? rounds room before t := by
  rw [entries?.eq_def, entries?.eq_def rounds room before t]
  cases rounds with
  | zero => rfl
  | succ rounds => simp only [skipBlanks_append h]

end

end Json

end StoryCatalog

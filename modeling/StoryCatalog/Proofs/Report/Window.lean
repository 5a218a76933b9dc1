import StoryCatalog.Proofs.Location.Inverse
import StoryCatalog.Proofs.Text.Decimal
import StoryCatalog.Report.Window

/-!
# The rows of a source window

Each of the six rows of a window without colours is a mark, a label at the right end of a field, a
bar, and what stands behind the bar (`Window.rows_plain`). No row holds a newline, so the lines of a
window are its rows (`Window.lines_render`).

A label that is no longer than its field leaves the bar and everything behind it in place. The field
is as wide as the number of the line behind the marked one, so all labels fit except, before a power
of ten, the last one (`Window.length_label_le`). That is why the caret stands under the character
that it marks (`Window.caret_marks`), and why the bar of the last row can be out of line
(`Window.bars_aligned_iff`).
-/

namespace StoryCatalog

namespace Text

/-- A text is split at a character as a list is. -/
theorem split_eq_splitOn (separator : CodePoint) (t : Text) :
    split separator t = t.splitOn separator := by
  induction t with
  | nil => rfl
  | cons c t ih =>
      rw [split, ih, List.splitOn_eq_splitOnP, List.splitOn_eq_splitOnP,
        List.splitOnP_cons_eq_if_modifyHead]
      by_cases h : c = separator
      · simp [h]
      · rw [if_neg h, if_neg (by simpa using h)]
        cases hsplit : List.splitOnP (· == separator) t with
        | nil => exact absurd hsplit (List.splitOnP_ne_nil _ _)
        | cons part more => rfl

/-- Rows without newlines are the lines of the text that they make. -/
theorem lines_join {rows : List Text} (hne : rows ≠ [])
    (h : ∀ row ∈ rows, CodePoint.newline ∉ row) : lines (join [CodePoint.newline] rows) = rows := by
  rw [lines, split_eq_splitOn, join, List.splitOn_intercalate _ h hne]

/-- No part of a text holds the separator. -/
theorem separator_not_mem_of_mem_split {separator : CodePoint} {t part : Text}
    (h : part ∈ split separator t) : separator ∉ part := by
  induction t generalizing part with
  | nil =>
      rw [split, List.mem_singleton] at h
      simp [h]
  | cons c t ih =>
      rw [split] at h
      by_cases hc : c = separator
      · rw [if_pos hc, List.mem_cons] at h
        rcases h with rfl | h
        · simp
        · exact ih h
      · rw [if_neg hc] at h
        have hfirst : ∀ {part : Text}, separator ∉ part → separator ∉ c :: part :=
          fun hpart => List.not_mem_cons_of_ne_of_not_mem (Ne.symm hc) hpart
        cases hsplit : split separator t with
        | nil =>
            rw [hsplit, List.mem_singleton] at h
            exact h ▸ hfirst List.not_mem_nil
        | cons first more =>
            rw [hsplit] at ih h
            rcases List.mem_cons.mp h with rfl | h
            · exact hfirst (ih List.mem_cons_self)
            · exact ih (List.mem_cons_of_mem _ h)

/-- A padded text has the width, or its own length when that is more. -/
theorem length_padLeft (width : Nat) (t : Text) :
    (padLeft width t).length = max width t.length := by
  rw [padLeft, List.length_append, List.length_replicate]
  omega

/-- Padding adds only spaces. -/
theorem mem_padLeft {width : Nat} {t : Text} {c : CodePoint} (h : c ∈ padLeft width t) :
    c = CodePoint.space ∨ c ∈ t := by
  rw [padLeft, List.mem_append] at h
  rcases h with h | h
  · exact .inl (List.eq_of_mem_replicate h)
  · exact .inr h

/-- Behind characters other than it, a character stands first where they end. -/
theorem idxOf?_append_cons {c : CodePoint} {before : Text} (h : c ∉ before) (rest : Text) :
    (before ++ c :: rest).idxOf? c = some before.length := by
  induction before with
  | nil => simp [List.idxOf?_cons]
  | cons d before ih =>
      rw [List.mem_cons, not_or] at h
      rw [List.cons_append, List.idxOf?_cons, ih h.2, if_neg (by simpa using Ne.symm h.1)]
      rfl

end Text

namespace Window

/-- The bar between the numbers of the lines and the lines. -/
def bar : CodePoint := 0x7C

/-- The caret. -/
def caret : CodePoint := 0x5E

/-- What stands in the field before the bar: the number of the line, or a star. -/
def label (lines : List Text) (index : Int) : Text :=
  match lineAt? lines index with
  | none => "*"
  | some _ => Text.ofInt (index + 1)

/-- What stands behind the bar. -/
def shown (lines : List Text) (index : Int) : Text :=
  match lineAt? lines index with
  | none => []
  | some line => CodePoint.space :: line

/-- A row of a window without colours. -/
def row (mark : Text) (width : Nat) (label shown : Text) : Text :=
  mark ++ (Text.padLeft width label ++ CodePoint.space :: bar :: shown)

/-! ## What the rows are made of -/

/-- A numbered line is its label, padded, a bar and what is shown of the line. -/
theorem formatLine_eq (lines : List Text) (index : Int) (width : Nat) :
    formatLine lines index width =
      Text.padLeft width (label lines index) ++ CodePoint.space :: bar :: shown lines index := by
  unfold formatLine label shown
  cases lineAt? lines index with
  | none => rfl
  | some line =>
      show _ ++ _ ++ line = _
      rw [List.append_assoc]
      rfl

/-- Without colours a line of the context is a row behind four spaces. -/
theorem contextRow_plain (lines : List Text) (width : Nat) (index : Int) :
    contextRow .plain lines width index =
      row "    " width (label lines index) (shown lines index ++ [CodePoint.space]) := by
  rw [contextRow, formatLine_eq, row]
  simp only [Palette.plain, List.append_nil, List.append_assoc, List.cons_append]
  rfl

/-- Without colours the marked line is a row behind the mark. -/
theorem markedRow_plain (lines : List Text) (width : Nat) (index : Int) :
    markedRow .plain lines width index =
      row "  > " width (label lines index) (shown lines index) := by
  rw [markedRow, formatLine_eq, row]
  simp only [Palette.plain, List.append_nil, List.append_assoc]
  rfl

/-- Without colours the caret stands in a row with an empty label. -/
theorem caretRow_plain (width : Nat) (column : Int) :
    caretRow .plain width column =
      row "    " width " " (CodePoint.space ::
        (Text.padLeft column.toNat [caret] ++ [CodePoint.space])) := by
  rw [caretRow, row]
  simp only [Palette.plain, List.append_nil, List.append_assoc]
  rfl

/-- The width of the field of the labels: that of the number of the next line. -/
def width (line : Int) : Nat :=
  (Text.ofInt (line + 1)).length

/-- The window has two lines before the marked one, the caret below it, and two lines behind. -/
theorem rows_eq (palette : Palette) (source : Text) (line column : Int) :
    rows palette source line column =
      [contextRow palette source.lines (width line) (line - 3),
        contextRow palette source.lines (width line) (line - 2),
        markedRow palette source.lines (width line) (line - 1),
        caretRow palette (width line) column,
        contextRow palette source.lines (width line) line,
        contextRow palette source.lines (width line) (line + 1)] := by
  have hwidth : (Text.ofInt (line - 1 + 2)).length = width line := by
    rw [width, show line - 1 + 2 = line + 1 by omega]
  simp only [rows, hwidth]
  rw [show line - 1 - 2 = line - 3 by omega, show line - 1 - 1 = line - 2 by omega,
    show line - 1 + 1 = line by omega, show line - 1 + 2 = line + 1 by omega]

/-- Without colours all six rows have one shape. -/
theorem rows_plain (source : Text) (line column : Int) :
    rows .plain source line column =
      [row "    " (width line) (label source.lines (line - 3))
          (shown source.lines (line - 3) ++ [CodePoint.space]),
        row "    " (width line) (label source.lines (line - 2))
          (shown source.lines (line - 2) ++ [CodePoint.space]),
        row "  > " (width line) (label source.lines (line - 1)) (shown source.lines (line - 1)),
        row "    " (width line) " " (CodePoint.space ::
          (Text.padLeft column.toNat [caret] ++ [CodePoint.space])),
        row "    " (width line) (label source.lines line)
          (shown source.lines line ++ [CodePoint.space]),
        row "    " (width line) (label source.lines (line + 1))
          (shown source.lines (line + 1) ++ [CodePoint.space])] := by
  simp only [rows_eq, contextRow_plain, markedRow_plain, caretRow_plain]

/-! ## Where the bar stands -/

/-- A label is a number or a star. -/
theorem mem_label {lines : List Text} {index : Int} {c : CodePoint} (h : c ∈ label lines index) :
    Json.isDigit c = true ∨ c = 0x2D ∨ c = 0x2A := by
  unfold label at h
  split at h
  · exact .inr (.inr (List.mem_singleton.mp h))
  · exact (Text.isDigit_of_mem_ofInt h).imp_right .inl

theorem bar_not_mem_label (lines : List Text) (index : Int) : bar ∉ label lines index :=
  fun h => absurd (mem_label h) (by decide)

theorem newline_not_mem_label (lines : List Text) (index : Int) :
    CodePoint.newline ∉ label lines index :=
  fun h => absurd (mem_label h) (by decide)

/-- The bar of a row stands behind the mark and the padded label. -/
theorem idxOf?_bar_row {mark label : Text} (hmark : bar ∉ mark) (hlabel : bar ∉ label)
    (width : Nat) (shown : Text) :
    (row mark width label shown).idxOf? bar = some (mark.length + max width label.length + 1) := by
  have hbefore : bar ∉ mark ++ (Text.padLeft width label ++ [CodePoint.space]) := by
    simp only [List.mem_append, List.mem_singleton, not_or]
    refine ⟨hmark, fun h => ?_, by decide⟩
    rcases Text.mem_padLeft h with h | h
    · exact absurd h (by decide)
    · exact hlabel h
  have hrow : row mark width label shown =
      mark ++ (Text.padLeft width label ++ [CodePoint.space]) ++ bar :: shown := by
    simp [row]
  rw [hrow, Text.idxOf?_append_cons hbefore]
  simp only [List.length_append, List.length_singleton, Text.length_padLeft, Nat.add_assoc]

/-- A number that is not above another one has a label that fits where the other one does. -/
theorem length_label_le (lines : List Text) {index line : Int} (h : index ≤ line) :
    (label lines index).length ≤ width line := by
  unfold label
  cases hline : lineAt? lines index with
  | none => exact Text.length_ofInt_pos _
  | some text =>
      have hindex : 0 ≤ index := by
        by_contra hneg
        rw [lineAt?, if_pos (by omega)] at hline
        cases hline
      exact Text.length_ofInt_mono (by omega) (by omega)

/-! ## The lines of a window -/

/-- A row is one line when its parts are. -/
theorem newline_not_mem_row {mark label shown : Text} (hmark : CodePoint.newline ∉ mark)
    (hlabel : CodePoint.newline ∉ label) (hshown : CodePoint.newline ∉ shown) (width : Nat) :
    CodePoint.newline ∉ row mark width label shown := by
  intro h
  simp only [row, List.mem_append, List.mem_cons] at h
  rcases h with h | h | h | h | h
  · exact hmark h
  · rcases Text.mem_padLeft h with h | h
    · exact absurd h (by decide)
    · exact hlabel h
  · exact absurd h (by decide)
  · exact absurd h (by decide)
  · exact hshown h

theorem newline_not_mem_shown (source : Text) (index : Int) :
    CodePoint.newline ∉ shown source.lines index := by
  unfold shown
  split
  · exact List.not_mem_nil
  · rename_i line hline
    unfold lineAt? at hline
    split at hline
    · cases hline
    · refine List.not_mem_cons_of_ne_of_not_mem (by decide) ?_
      exact Text.separator_not_mem_of_mem_split (List.mem_of_getElem? hline)

/-- The lines of a window without colours are its rows. -/
theorem lines_render (source : Text) (line column : Int) :
    (render source line column false).lines = rows .plain source line column := by
  have hcontext : ∀ index, CodePoint.newline ∉ row "    " (width line)
      (label source.lines index) (shown source.lines index ++ [CodePoint.space]) := by
    intro index
    refine newline_not_mem_row (by decide) (newline_not_mem_label _ _) ?_ _
    simpa using ⟨newline_not_mem_shown source index, by decide⟩
  have hmarked : CodePoint.newline ∉ row "  > " (width line) (label source.lines (line - 1))
      (shown source.lines (line - 1)) :=
    newline_not_mem_row (by decide) (newline_not_mem_label _ _) (newline_not_mem_shown _ _) _
  have hcaret : CodePoint.newline ∉ row "    " (width line) " " (CodePoint.space ::
      (Text.padLeft column.toNat [caret] ++ [CodePoint.space])) := by
    refine newline_not_mem_row (by decide) (by decide) ?_ _
    intro h
    simp only [List.mem_append, List.mem_cons, List.not_mem_nil, or_false] at h
    rcases h with h | h | h
    · exact absurd h (by decide)
    · rcases Text.mem_padLeft h with h | h
      · exact absurd h (by decide)
      · exact absurd h (by decide)
    · exact absurd h (by decide)
  show (Text.join [CodePoint.newline] (rows .plain source line column)).lines = _
  rw [rows_plain]
  refine Text.lines_join (List.cons_ne_nil _ _) ?_
  simp only [List.forall_mem_cons]
  exact ⟨hcontext _, hcontext _, hmarked, hcaret, hcontext _, hcontext _,
    fun row h => absurd h List.not_mem_nil⟩

/-! ## Alignment -/

/-- The number behind a positive one has a label that fits in its field, unless the number has one
digit more than the one before it and stands at a line of the text. -/
theorem max_length_label_succ (source : Text) {line : Int} (hline : 1 ≤ line) :
    (max (width line) (label source.lines (line + 1)).length = width line ∨
        max (width line) (label source.lines (line + 1)).length = width line + 1) ∧
      (max (width line) (label source.lines (line + 1)).length = width line ↔
        ¬(line + 2 ≤ source.lines.length ∧ ∃ k : Nat, line + 2 = 10 ^ k)) := by
  have hwidth : 0 < width line := Text.length_ofInt_pos _
  have hpower := Text.length_ofInt_lt_succ_iff (show 0 < line + 1 by omega)
  have hlonger := Text.length_ofInt_succ_le (show 0 ≤ line + 1 by omega)
  rw [show line + 1 + 1 = line + 2 by omega] at hpower hlonger
  rw [← hpower]
  unfold width label at *
  -- the row shows the number `line + 2` when the text has such a line, and a star otherwise
  by_cases hinside : line + 2 ≤ source.lines.length
  · have hat : lineAt? source.lines (line + 1) = source.lines[(line + 1).toNat]? :=
      if_neg (by omega)
    rw [hat, List.getElem?_eq_getElem (by omega)]
    dsimp only
    rw [show line + 1 + 1 = line + 2 by omega]
    omega
  · have hat : lineAt? source.lines (line + 1) = none := by
      rw [lineAt?, if_neg (by omega), List.getElem?_eq_none (by omega)]
    have hstar : (Text.ofString "*").length = 1 := rfl
    rw [hat]
    dsimp only
    rw [hstar]
    omega

/-- In a window at any line of a text, or behind the last one, the first bars of the first five rows
stand at one index. The first bar of the sixth row stands there too, except where the number that
this row shows is a power of ten: then it stands one further right, because the field is only as
wide as the number before. -/
theorem bars_aligned_iff (source : Text) {line : Int} (hline : 1 ≤ line) (column : Int) :
    (∃ common last : Nat, (last = common ∨ last = common + 1) ∧
        (render source line column false).lines.map (fun row => row.idxOf? bar) =
          [some common, some common, some common, some common, some common, some last]) ∧
      ((∃ i, ∀ row ∈ (render source line column false).lines, row.idxOf? bar = some i) ↔
        ¬(line + 2 ≤ source.lines.length ∧ ∃ k : Nat, line + 2 = 10 ^ k)) := by
  have hfits : ∀ index, index ≤ line →
      max (width line) (label source.lines index).length = width line :=
    fun index h => Nat.max_eq_left (length_label_le source.lines h)
  have hblank : max (width line) (Text.ofString " ").length = width line :=
    Nat.max_eq_left (Text.length_ofInt_pos _)
  have hbars : (render source line column false).lines.map (fun row => row.idxOf? bar) =
      List.replicate 5 (some (4 + width line + 1)) ++
        [some (4 + max (width line) (label source.lines (line + 1)).length + 1)] := by
    have hspaces : bar ∉ Text.ofString "    " := by decide
    have hmark : bar ∉ Text.ofString "  > " := by decide
    have hspace : bar ∉ Text.ofString " " := by decide
    have hlabel := bar_not_mem_label source.lines
    rw [lines_render, rows_plain]
    simp only [List.map_cons, List.map_nil, idxOf?_bar_row hspaces (hlabel _),
      idxOf?_bar_row hmark (hlabel _), idxOf?_bar_row hspaces hspace]
    rw [hfits _ (by omega), hfits _ (by omega), hfits _ (by omega), hfits _ (by omega), hblank]
    rfl
  obtain ⟨hbounds, hlast⟩ := max_length_label_succ source hline
  refine ⟨⟨_, _, by omega, hbars⟩, ?_⟩
  -- with five bars at one index, alignment is a matter of the sixth
  rw [← hlast]
  have hall : ∀ i, (∀ row ∈ (render source line column false).lines, row.idxOf? bar = some i) ↔
      ∀ index ∈ (render source line column false).lines.map (fun row => row.idxOf? bar),
        index = some i := by
    intro i
    rw [List.forall_mem_map]
  simp only [hall, hbars, List.forall_mem_append, List.forall_mem_singleton, List.mem_replicate]
  constructor
  · rintro ⟨i, hfirst, hsixth⟩
    have hfirst := hfirst _ ⟨by decide, rfl⟩
    rw [← hfirst, Option.some.injEq] at hsixth
    omega
  · intro hequal
    rw [hequal]
    exact ⟨_, fun index h => h.2, rfl⟩

/-- Ten lines of one letter. -/
def tenLines : Text := "a\nb\nc\nd\ne\nf\ng\nh\ni\nj"

/-- Among ten lines, a window at the seventh is aligned. -/
theorem bars_aligned_seven :
    1 ≤ (7 : Int) ∧
      ∃ i, ∀ row ∈ (render tenLines 7 1 false).lines, row.idxOf? bar = some i := by
  have hline : 1 ≤ (7 : Int) := by decide
  have hnine : ∀ k : Nat, (7 : Int) + 2 ≠ 10 ^ k := by
    intro k
    cases k with
    | zero => decide
    | succ k => rw [Int.pow_succ]; omega
  exact ⟨hline, (bars_aligned_iff tenLines hline 1).2.mpr fun h => h.2.elim hnine⟩

/-- At the eighth line the bar before the tenth one is out of line. -/
theorem bars_not_aligned_eight :
    ¬∃ i, ∀ row ∈ (render tenLines 8 1 false).lines, row.idxOf? bar = some i := by
  have hbars : (render tenLines 8 1 false).lines.map (fun row => row.idxOf? bar) =
      [some 6, some 6, some 6, some 6, some 6, some 7] := by decide
  rintro ⟨i, h⟩
  have hindex : ∀ index ∈ (render tenLines 8 1 false).lines.map (fun row => row.idxOf? bar),
      index = some i := List.forall_mem_map.mpr h
  rw [hbars] at hindex
  have hfirst := hindex (some 6) (by decide)
  have hlast := hindex (some 7) (by decide)
  rw [← hfirst] at hlast
  cases hlast

/-! ## The caret -/

/-- The line of a character is the one with as many lines before it as there are newlines, and the
character stands there behind those since the last newline. -/
theorem getElem?_line (t : Text) {k : Nat} (hk : k < t.length)
    (hne : t[k] ≠ CodePoint.newline) :
    ∃ full, t.lines[(t.take k).count CodePoint.newline]? = some full ∧
      full[(Text.lastLine (t.take k)).length]? = some t[k] := by
  have htake : t.take (k + 1) = t.take k ++ [t[k]] := (List.take_append_getElem hk).symm
  have hcount : (t.take (k + 1)).count CodePoint.newline = (t.take k).count CodePoint.newline := by
    rw [htake, List.count_append, List.count_singleton, if_neg (by simpa using hne), Nat.add_zero]
  have hlast : Text.lastLine (t.take (k + 1)) = Text.lastLine (t.take k) ++ [t[k]] := by
    rw [htake, Text.lastLine_append_of_ne _ hne]
  obtain ⟨full, hfull, hprefix⟩ := (Text.exists_prefix_iff t _ _).mp
    ⟨t.take (k + 1), List.take_prefix (k + 1) t, hcount, hlast⟩
  refine ⟨full, hfull, ?_⟩
  obtain ⟨rest, rfl⟩ := hprefix
  rw [List.append_assoc, List.getElem?_append_right (Nat.le_refl _), Nat.sub_self]
  rfl

/-- A line that is counted from the front is found by its index. -/
theorem lineAt?_natCast (lines : List Text) (index : Nat) :
    lineAt? lines index = lines[index]? := by
  rw [lineAt?, if_neg (by omega), Int.toNat_natCast]

/-- Behind the bar and one blank stands what the row shows. -/
theorem getElem?_row (mark : Text) (width : Nat) (label shown : Text) (place : Nat) :
    (row mark width label (CodePoint.space :: shown))[
        mark.length + max width label.length + 3 + place]? = shown[place]? := by
  have hrow : row mark width label (CodePoint.space :: shown) =
      mark ++ Text.padLeft width label ++ [CodePoint.space, bar, CodePoint.space] ++ shown := by
    simp [row]
  have hlength : (mark ++ Text.padLeft width label ++
      [CodePoint.space, bar, CodePoint.space]).length =
        mark.length + max width label.length + 3 := by
    simp [Text.length_padLeft, Nat.add_assoc]
  rw [hrow, ← hlength, List.getElem?_append_right (Nat.le_add_right _ _), Nat.add_sub_cancel_left]

/-- The row of the caret has one caret, which stands at the column. -/
theorem caret_caretRow {width : Nat} (hwidth : 1 ≤ width) (place : Nat) :
    (caretRow .plain width (place + 1)).count caret = 1 ∧
      (caretRow .plain width (place + 1)).idxOf? caret = some (4 + width + 3 + place) := by
  have hrow : caretRow .plain width (place + 1) =
      Text.ofString "    " ++ Text.padLeft width " " ++ [CodePoint.space, bar, CodePoint.space]
        ++ List.replicate place CodePoint.space ++ caret :: [CodePoint.space] := by
    have hplace : Int.toNat (place + 1) - [caret].length = place := by
      show Int.toNat (place + 1) - 1 = place
      omega
    rw [caretRow_plain, row, Text.padLeft.eq_def _ [caret], hplace]
    simp
  have hbefore : caret ∉ Text.ofString "    " ++ Text.padLeft width " "
      ++ [CodePoint.space, bar, CodePoint.space] ++ List.replicate place CodePoint.space := by
    simp only [List.mem_append, not_or]
    refine ⟨⟨⟨by decide, fun h => ?_⟩, by decide⟩, fun h => ?_⟩
    · exact absurd (Text.mem_padLeft h) (by decide)
    · exact absurd (List.eq_of_mem_replicate h) (by decide)
  rw [hrow]
  constructor
  · rw [List.count_append, List.count_eq_zero.mpr hbefore]
    rfl
  · rw [Text.idxOf?_append_cons hbefore]
    have hblank : (Text.ofString " ").length = 1 := rfl
    have hspaces : (Text.ofString "    ").length = 4 := rfl
    simp only [List.length_append, List.length_replicate, List.length_cons, List.length_nil,
      Text.length_padLeft, hblank, hspaces, Nat.max_eq_left hwidth]

/-- The marked row shows the number of its line and the line, whose characters stand as far behind
the field as the columns of the caret do. -/
theorem markedRow_of_lineAt? {lines : List Text} {full : Text} {before width : Nat}
    (hline : lines[before]? = some full)
    (hwidth : (Text.ofInt (before + 1)).length ≤ width) :
    markedRow .plain lines width before =
        "  > " ++ Text.padLeft width (Text.ofInt (before + 1)) ++ " | " ++ full ∧
      ∀ place : Nat, (markedRow .plain lines width before)[4 + width + 3 + place]? =
        full[place]? := by
  have hlabel : label lines before = Text.ofInt (before + 1) := by
    rw [label, lineAt?_natCast, hline]
  have hshown : shown lines before = CodePoint.space :: full := by
    rw [shown, lineAt?_natCast, hline]
  rw [markedRow_plain, hlabel, hshown]
  constructor
  · simp only [row, List.append_assoc]
    rfl
  · intro place
    have hrow := getElem?_row "  > " width (Text.ofInt (before + 1)) full place
    rwa [Nat.max_eq_left hwidth] at hrow

/-- For every text and every offset of a character other than a newline: the offset has a position,
and the window there has six rows. The third shows the number of the line and the whole line. The
fourth has one caret, and at its index the third row has the character. -/
theorem caret_marks (source : Text) {k : Nat} (hk : k < source.length)
    (hne : source[k] ≠ CodePoint.newline) :
    ∃ (p : Position) (before : Nat) (line : Text),
      (LineIndex.ofText source).resolve k = .ok p ∧ p.line = before + 1 ∧
        source.lines[before]? = some line ∧
        ∃ first second marked carets fifth sixth,
          (render source p.line p.column false).lines =
              [first, second, marked, carets, fifth, sixth] ∧
            (∃ width, marked =
              "  > " ++ Text.padLeft width (Text.ofInt p.line) ++ " | " ++ line) ∧
            carets.count caret = 1 ∧
            ∃ index, carets.idxOf? caret = some index ∧ marked[index]? = some source[k] := by
  obtain ⟨line, hline, hcharacter⟩ := getElem?_line source hk hne
  -- the window is laid out by the numbers alone, so the position is taken apart into them
  generalize hp : source.positionAt k = p
  generalize hbefore : (source.take k).count CodePoint.newline = before at hline
  generalize hplace : (Text.lastLine (source.take k)).length = place at hcharacter
  have hposition : p = ⟨before + 1, place + 1⟩ := by
    rw [← hp, ← hbefore, ← hplace]
    rfl
  refine ⟨p, before, line, hp ▸ LineIndex.resolve_ofText source (Nat.le_of_lt hk), ?_, hline, ?_⟩
  · rw [hposition]
  · subst hposition
    -- the number in the field has no more digits than the one behind it
    have hwidth : (Text.ofInt ((before : Int) + 1)).length ≤ width (before + 1) :=
      Text.length_ofInt_mono (by omega) (by omega)
    obtain ⟨hmarked, hcharacters⟩ := markedRow_of_lineAt? hline hwidth
    obtain ⟨hcount, hindex⟩ := caret_caretRow (Nat.lt_of_lt_of_le (Text.length_ofInt_pos _) hwidth)
      place
    have hlines := lines_render source (before + 1) (place + 1)
    rw [rows_eq, Int.add_sub_cancel] at hlines
    refine ⟨_, _, _, _, _, _, hlines, ⟨_, hmarked⟩, hcount, _, hindex, ?_⟩
    rw [hcharacters, hcharacter]

/-- A text whose tenth line is ` x^`. -/
def tenthMarked : Text := "a\nb\nc\nd\ne\nf\ng\nh\ni\n x^"

/-- On the tenth line, where the numbers above have one digit, the caret stands under the `x`. -/
theorem caret_marks_tenth :
    ∃ hk : 19 < tenthMarked.length, tenthMarked[19] ≠ CodePoint.newline ∧
      ∃ first second marked carets fifth sixth,
        (render tenthMarked 10 2 false).lines = [first, second, marked, carets, fifth, sixth] ∧
          carets.count caret = 1 ∧
          ∃ index, carets.idxOf? caret = some index ∧ marked[index]? = some (0x78 : CodePoint) := by
  have hk : 19 < tenthMarked.length := by decide
  have hne : tenthMarked[19] ≠ CodePoint.newline := by decide +revert
  obtain ⟨p, _, _, hp, -, -, first, second, marked, carets, fifth, sixth, hlines, -, hcount,
    hindex⟩ := caret_marks tenthMarked hk hne
  have hposition : tenthMarked.positionAt 19 = ⟨10, 2⟩ := by decide
  rw [LineIndex.resolve_ofText tenthMarked (Nat.le_of_lt hk), hposition] at hp
  cases hp
  exact ⟨hk, hne, first, second, marked, carets, fifth, sixth, hlines, hcount, hindex⟩

end Window

end StoryCatalog

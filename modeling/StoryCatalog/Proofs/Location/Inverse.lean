import StoryCatalog.Proofs.Location.Position

/-!
# Offsets and positions are one to one

A start of a text is told by how many newlines it has and by what stands behind the last of them:
the first number is the index of a line of the text and the second part is a start of that line
(`Text.exists_prefix_iff`). So the offsets of a text and the places in its lines are the same, and a
line index carries the ones to the others in their order (`LineIndex.resolve_ofText_one_to_one`).
-/

namespace StoryCatalog

namespace Text

/-! ## The last line of a start -/

/-- After a text that holds a line break, the last line is that of this text alone. -/
theorem lastLine_append_of_mem (t : Text) {u : Text} (h : CodePoint.newline ∈ u) :
    lastLine (t ++ u) = lastLine u := by
  induction u using List.reverseRec with
  | nil => cases h
  | append_singleton u c ih =>
      rw [← List.append_assoc]
      by_cases hc : c = CodePoint.newline
      · subst hc
        rw [lastLine_append_newline, lastLine_append_newline]
      · have hmem : CodePoint.newline ∈ u := by simpa [Ne.symm hc] using h
        rw [lastLine_append_of_ne _ hc, lastLine_append_of_ne _ hc, ih hmem]

/-- A text without a line break is added to the last line of what stands before it. -/
theorem lastLine_append_of_not_mem (t : Text) {u : Text} (h : CodePoint.newline ∉ u) :
    lastLine (t ++ u) = lastLine t ++ u := by
  induction u using List.reverseRec with
  | nil => simp
  | append_singleton u c ih =>
      simp only [List.mem_append, List.mem_singleton, not_or] at h
      rw [← List.append_assoc, lastLine_append_of_ne _ (Ne.symm h.2), ih h.1, List.append_assoc]

theorem lastLine_newline_cons (t : Text) : lastLine (CodePoint.newline :: t) = lastLine t := by
  by_cases h : CodePoint.newline ∈ t
  · exact lastLine_append_of_mem [CodePoint.newline] h
  · rw [← List.singleton_append, lastLine_append_of_not_mem _ h, ← List.nil_append t,
      lastLine_append_of_not_mem _ h]
    rfl

theorem lastLine_eq_self {t : Text} (h : CodePoint.newline ∉ t) : lastLine t = t :=
  lastLine_append_of_not_mem [] h

/-! ## Starts of a text and starts of its lines -/

/-- A leading line break begins with an empty line. -/
theorem lines_newline_cons (t : Text) : lines (CodePoint.newline :: t) = [] :: lines t := by
  rw [lines, split, if_pos rfl]
  rfl

theorem exists_lines_eq_cons (t : Text) : ∃ first more, lines t = first :: more := by
  unfold lines
  cases t with
  | nil => exact ⟨_, _, rfl⟩
  | cons c rest =>
      unfold split
      split
      · exact ⟨_, _, rfl⟩
      · split
        · exact ⟨_, _, rfl⟩
        · exact ⟨_, _, rfl⟩

/-- A leading character that is no line break stands in the first line. -/
theorem lines_cons_of_ne {c : CodePoint} (hc : c ≠ CodePoint.newline) {t first : Text}
    {more : List Text} (h : lines t = first :: more) : lines (c :: t) = (c :: first) :: more := by
  unfold lines at h ⊢
  rw [split, if_neg hc, h]

/-- A prefix of a text with a first character is empty or takes this character. -/
theorem exists_prefix_cons_iff {c : CodePoint} {t : Text} {P : Text → Prop} :
    (∃ u, u <+: c :: t ∧ P u) ↔ P [] ∨ ∃ u, u <+: t ∧ P (c :: u) := by
  simp only [List.prefix_cons_iff, or_and_right, exists_or, exists_eq_left]
  refine or_congr_right ⟨?_, ?_⟩
  · rintro ⟨_, ⟨u, rfl, hu⟩, h⟩
    exact ⟨u, hu, h⟩
  · rintro ⟨u, hu, h⟩
    exact ⟨_, ⟨u, rfl, hu⟩, h⟩

/-- The starts of a text with this many newlines end in the starts of the line of this index. -/
theorem exists_prefix_iff (t : Text) (row : Nat) (v : Text) :
    (∃ u, u <+: t ∧ u.count CodePoint.newline = row ∧ lastLine u = v) ↔
      ∃ line, t.lines[row]? = some line ∧ v <+: line := by
  induction t generalizing row v with
  | nil =>
      simp only [List.prefix_nil, exists_eq_left, List.count_nil]
      cases row with
      | zero => simp [lines, split, lastLine, eq_comm]
      | succ row => simp [lines, split]
  | cons c rest ih =>
      rw [exists_prefix_cons_iff]
      by_cases hc : c = CodePoint.newline
      · -- a newline ends an empty line, and the other lines are those of the rest
        subst hc
        simp only [List.count_nil, List.count_cons_self, lastLine_newline_cons]
        rw [lines_newline_cons]
        cases row with
        | zero => simp [lastLine, eq_comm]
        | succ row => simpa using ih row v
      · obtain ⟨first, more, hlines⟩ := exists_lines_eq_cons rest
        simp only [List.count_nil, List.count_cons_of_ne hc]
        rw [lines_cons_of_ne hc hlines]
        rw [hlines] at ih
        cases row with
        | zero =>
            -- without a newline the start is its own last line
            have hself : ∀ {u : Text}, u.count CodePoint.newline = 0 →
                lastLine u = u ∧ lastLine (c :: u) = c :: u := by
              intro u hu
              rw [List.count_eq_zero] at hu
              exact ⟨lastLine_eq_self hu, lastLine_eq_self (by simp [hu, Ne.symm hc])⟩
            have hfirst : ∀ v : Text, (∃ u, u <+: rest ∧ u.count CodePoint.newline = 0 ∧
                lastLine u = v) ↔ v <+: first := by simpa using ih 0
            simp only [List.getElem?_cons_zero, Option.some.injEq, exists_eq_left', true_and]
            rw [List.prefix_cons_iff]
            constructor
            · rintro (rfl | ⟨u, hu, hcount, rfl⟩)
              · exact .inl rfl
              · refine .inr ⟨u, (hself hcount).2, ?_⟩
                exact (hfirst u).mp ⟨u, hu, hcount, (hself hcount).1⟩
            · rintro (rfl | ⟨v, rfl, hv⟩)
              · exact .inl rfl
              · obtain ⟨u, hu, hcount, rfl⟩ := (hfirst v).mpr hv
                refine .inr ⟨u, hu, hcount, ?_⟩
                rw [(hself hcount).1, (hself hcount).2]
        | succ row =>
            -- the line is not the first one, so the character stands before its last newline
            have hlast : ∀ u : Text, u.count CodePoint.newline = row + 1 →
                lastLine (c :: u) = lastLine u := by
              intro u hu
              exact lastLine_append_of_mem [c] (List.count_pos_iff.mp (by omega))
            have hrest := ih (row + 1) v
            rw [List.getElem?_cons_succ] at hrest ⊢
            rw [← hrest]
            constructor
            · rintro (⟨h, -⟩ | ⟨u, hu, hcount, rfl⟩)
              · cases h
              · exact ⟨u, hu, hcount, (hlast u hcount).symm⟩
            · rintro ⟨u, hu, hcount, rfl⟩
              exact .inr ⟨u, hu, hcount, hlast u hcount⟩

end Text

/-! ## Positions in order -/

namespace Position

/-- The position comes first: on an earlier line, or on the same line in an earlier column. -/
def Before (p q : Position) : Prop :=
  p.line < q.line ∨ p.line = q.line ∧ p.column < q.column

/-- The position is on a line of the text, at one of its characters or right behind the last. -/
def Within (p : Position) (t : Text) : Prop :=
  ∃ (row : Nat) (h : row < t.lines.length),
    p.line = row + 1 ∧ 1 ≤ p.column ∧ p.column ≤ t.lines[row].length + 1

theorem Before.ne {p q : Position} (h : p.Before q) : p ≠ q := by
  rintro rfl
  rcases h with h | ⟨_, h⟩ <;> omega

end Position

namespace Text

/-- An offset behind another one is on a later line, or further behind in the same line. -/
theorem positionAt_before {t : Text} {j k : Nat} (hjk : j < k) (hk : k ≤ t.length) :
    (t.positionAt j).Before (t.positionAt k) := by
  obtain ⟨u, hu, hlength⟩ : ∃ u, t.take k = t.take j ++ u ∧ u.length = k - j := by
    refine ⟨(t.drop j).take (k - j), ?_, ?_⟩
    · rw [← List.take_add, Nat.add_sub_cancel' (Nat.le_of_lt hjk)]
    · rw [List.length_take, List.length_drop]
      omega
  simp only [Position.Before, positionAt, hu, List.count_append]
  by_cases hmem : CodePoint.newline ∈ u
  · have hcount := List.count_pos_iff.mpr hmem
    exact .inl (by omega)
  · have hcount := List.count_eq_zero.mpr hmem
    rw [lastLine_append_of_not_mem _ hmem, List.length_append]
    exact .inr ⟨by omega, by omega⟩

/-- The positions of the offsets of a text are those within the text. -/
theorem exists_positionAt_iff {t : Text} {p : Position} :
    (∃ k, k ≤ t.length ∧ t.positionAt k = p) ↔ p.Within t := by
  constructor
  · rintro ⟨k, _, rfl⟩
    obtain ⟨line, hline, hprefix⟩ := (exists_prefix_iff t _ _).mp
      ⟨t.take k, List.take_prefix k t, rfl, rfl⟩
    obtain ⟨hrow, rfl⟩ := List.getElem?_eq_some_iff.mp hline
    have hlength := hprefix.length_le
    exact ⟨_, hrow, rfl, by simp only [positionAt]; omega, by simp only [positionAt]; omega⟩
  · obtain ⟨line, column⟩ := p
    rintro ⟨row, hrow, hline, hlow, hhigh⟩
    dsimp only at hline hlow hhigh
    obtain ⟨u, hu, hcount, hlast⟩ := (exists_prefix_iff t row _).mpr
      ⟨_, List.getElem?_eq_getElem hrow, List.take_prefix (column - 1).toNat t.lines[row]⟩
    refine ⟨u.length, hu.length_le, ?_⟩
    rw [positionAt, ← List.prefix_iff_eq_take.mp hu, hcount, hlast, List.length_take]
    congr 1
    · exact hline.symm
    · omega

end Text

namespace LineIndex

/-- An offset has a position exactly when it is neither negative nor behind the end of the text. -/
theorem resolve_ofText_eq_error_iff (t : Text) (offset : Int) :
    (ofText t).resolve offset = .error (.outside offset t.length) ↔
      offset < 0 ∨ t.length < offset := by
  constructor
  · intro h
    by_contra hinside
    obtain ⟨k, rfl⟩ : ∃ k : Nat, offset = k := ⟨offset.toNat, by omega⟩
    rw [resolve_ofText t (by omega)] at h
    cases h
  · intro h
    exact if_pos h

/-- A position that is resolved is that of an offset within the text. -/
theorem exists_of_resolve_ofText {t : Text} {offset : Int} {p : Position}
    (h : (ofText t).resolve offset = .ok p) :
    ∃ k : Nat, offset = k ∧ k ≤ t.length ∧ t.positionAt k = p := by
  by_cases houtside : offset < 0 ∨ t.length < offset
  · rw [(resolve_ofText_eq_error_iff t offset).mpr houtside] at h
    cases h
  · obtain ⟨k, rfl⟩ : ∃ k : Nat, offset = k := ⟨offset.toNat, by omega⟩
    have hk : k ≤ t.length := by omega
    rw [resolve_ofText t hk] at h
    exact ⟨k, rfl, hk, Except.ok.inj h⟩

/-- For every text: an offset is refused exactly when it is negative or behind the end of the text.
Every other one has its line, one more than the newlines before it, and its column, one more than
the characters since the last of them. Later offsets have later positions, so no two have the same,
and every position within the text is that of an offset. -/
theorem resolve_ofText_one_to_one (t : Text) :
    (∀ offset : Int, (ofText t).resolve offset = .error (.outside offset t.length) ↔
        offset < 0 ∨ t.length < offset) ∧
      (∀ k : Nat, k ≤ t.length → (ofText t).resolve k =
        .ok ⟨(t.take k).count CodePoint.newline + 1, (Text.lastLine (t.take k)).length + 1⟩) ∧
      (∀ (j k : Int) (p q : Position), (ofText t).resolve j = .ok p →
        (ofText t).resolve k = .ok q → (j < k → p.Before q) ∧ (p = q → j = k)) ∧
      ∀ p : Position, (∃ offset : Int, (ofText t).resolve offset = .ok p) ↔ p.Within t := by
  refine ⟨resolve_ofText_eq_error_iff t, fun k hk => resolve_ofText t hk, ?_, ?_⟩
  · intro j k p q hp hq
    obtain ⟨j, rfl, hj, rfl⟩ := exists_of_resolve_ofText hp
    obtain ⟨k, rfl, hk, rfl⟩ := exists_of_resolve_ofText hq
    refine ⟨fun hlt => Text.positionAt_before (by omega) hk, ?_⟩
    intro heq
    rcases Nat.lt_trichotomy j k with hlt | rfl | hgt
    · exact absurd heq (Text.positionAt_before hlt hk).ne
    · rfl
    · exact absurd heq.symm (Text.positionAt_before hgt hj).ne
  · intro p
    rw [← Text.exists_positionAt_iff]
    constructor
    · rintro ⟨offset, h⟩
      obtain ⟨k, -, hk, hp⟩ := exists_of_resolve_ofText h
      exact ⟨k, hk, hp⟩
    · rintro ⟨k, hk, rfl⟩
      exact ⟨k, resolve_ofText t hk⟩

end LineIndex

end StoryCatalog

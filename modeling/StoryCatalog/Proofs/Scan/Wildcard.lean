import StoryCatalog.Scan.Glob

/-!
# What wildcards match

A pattern stands for the texts that can be cut into one part for each of its pieces
(`Wildcard.Spelled`). Comparing it with all tails of a text at once marks exactly the tails that it
stands for (`marks_matchTails`), so it matches a text exactly when it stands for it
(`matchWhole_iff`). In a glob every character that is no star, question mark or bracket stands for
itself (`pieces_append`).
-/

namespace StoryCatalog

/-- A piece of a pattern covers a part of a text. -/
def Piece.Covers : Piece → Text → Prop
  | .one set, part => ∃ c, set.contains c = true ∧ part = [c]
  | .run set, part => ∀ c ∈ part, set.contains c = true
  | .folders, part => part = [] ∨ ∃ front, CodePoint.newline ∉ front ∧ part = front ++ [0x2F]

/-- A text starts with a part that the piece covers, and goes on as wanted. -/
def Piece.Then (piece : Piece) (wanted : Text → Prop) (t : Text) : Prop :=
  ∃ part rest, t = part ++ rest ∧ piece.Covers part ∧ wanted rest

@[simp]
theorem CharSet.contains_all (c : CodePoint) : CharSet.all.contains c = true :=
  rfl

theorem CharSet.contains_single {c d : CodePoint} :
    (CharSet.single d).contains c = true ↔ c = d := by
  simp only [CharSet.contains, CharSet.single, List.any_cons, List.any_nil, Bool.or_false,
    Bool.bne_false, Bool.and_eq_true, decide_eq_true_eq, Fin.ext_iff]
  omega

theorem CharSet.contains_allBut {c d : CodePoint} :
    (CharSet.allBut d).contains c = true ↔ c ≠ d := by
  simp only [CharSet.contains, CharSet.allBut, List.any_cons, List.any_nil, Bool.or_false,
    Bool.bne_true, Bool.not_eq_true', Bool.and_eq_false_iff, decide_eq_false_iff_not, ne_eq,
    Fin.ext_iff]
  omega

namespace Piece

variable {set : CharSet} {wanted : Text → Prop} {c : CodePoint} {t : Text}

theorem not_then_one_nil : ¬(one set).Then wanted [] := by
  rintro ⟨_, rest, hnil, ⟨c, _, rfl⟩, _⟩
  cases hnil

/-- One character takes the first character when it is in the set. -/
theorem then_one_cons : (one set).Then wanted (c :: t) ↔ set.contains c = true ∧ wanted t := by
  constructor
  · rintro ⟨_, rest, heq, ⟨d, hd, rfl⟩, hrest⟩
    cases heq
    exact ⟨hd, hrest⟩
  · rintro ⟨hc, ht⟩
    exact ⟨[c], t, rfl, ⟨c, hc, rfl⟩, ht⟩

/-- At the end a run takes nothing. -/
theorem then_run_nil : (run set).Then wanted [] ↔ wanted [] := by
  constructor
  · rintro ⟨part, rest, hnil, _, hrest⟩
    obtain ⟨rfl, rfl⟩ := List.append_eq_nil_iff.mp hnil.symm
    exact hrest
  · intro h
    exact ⟨[], [], rfl, fun _ hmem => absurd hmem List.not_mem_nil, h⟩

/-- A run ends here, or takes the first character and goes on. -/
theorem then_run_cons :
    (run set).Then wanted (c :: t) ↔
      wanted (c :: t) ∨ set.contains c = true ∧ (run set).Then wanted t := by
  constructor
  · rintro ⟨part, rest, heq, hpart, hrest⟩
    cases part with
    | nil =>
        cases heq
        exact .inl hrest
    | cons d part =>
        cases heq
        exact .inr ⟨hpart c List.mem_cons_self, part, rest, rfl,
          fun d hd => hpart d (List.mem_cons_of_mem c hd), hrest⟩
  · rintro (h | ⟨hc, part, rest, rfl, hpart, hrest⟩)
    · exact ⟨[], c :: t, rfl, fun _ hmem => absurd hmem List.not_mem_nil, h⟩
    · refine ⟨c :: part, rest, rfl, ?_, hrest⟩
      intro d hd
      rcases List.mem_cons.mp hd with rfl | hd
      · exact hc
      · exact hpart d hd

/-- Folders take nothing, or a run of characters up to a slash. -/
theorem then_folders :
    folders.Then wanted t ↔
      wanted t ∨ (run (.allBut CodePoint.newline)).Then ((one (.single 0x2F)).Then wanted) t := by
  constructor
  · rintro ⟨part, rest, rfl, rfl | ⟨front, hfront, rfl⟩, hrest⟩
    · exact .inl hrest
    · refine .inr ⟨front, 0x2F :: rest, List.append_assoc front [0x2F] rest, ?_,
        then_one_cons.mpr ⟨CharSet.contains_single.mpr rfl, hrest⟩⟩
      rintro c hc
      rw [CharSet.contains_allBut]
      rintro rfl
      exact hfront hc
  · rintro (h | ⟨front, rest, rfl, hfront, _, more, rfl, ⟨c, hc, rfl⟩, hmore⟩)
    · exact ⟨[], t, rfl, .inl rfl, h⟩
    · cases CharSet.contains_single.mp hc
      refine ⟨front ++ [0x2F], more, (List.append_assoc front [0x2F] more).symm,
        .inr ⟨front, ?_, rfl⟩, hmore⟩
      intro hmem
      exact CharSet.contains_allBut.mp (hfront _ hmem) rfl

end Piece

namespace Wildcard

/-! ## Marked tails -/

/-- Marks say of each tail of a text whether it is wanted, of the whole text first. -/
inductive Marks (wanted : Text → Prop) : Text → List Bool → Prop where
  | nil {mark : Bool} : (mark = true ↔ wanted []) → Marks wanted [] [mark]
  | cons {c : CodePoint} {t : Text} {mark : Bool} {marks : List Bool} :
      (mark = true ↔ wanted (c :: t)) → Marks wanted t marks → Marks wanted (c :: t) (mark :: marks)

variable {wanted other : Text → Prop} {t : Text} {marks others : List Bool}

/-- The first mark tells of the whole text. -/
theorem Marks.head (h : Marks wanted t marks) : marks.headD false = true ↔ wanted t := by
  cases h with
  | nil hmark => exact hmark
  | cons hmark _ => exact hmark

/-- Marks depend only on what is wanted of each tail. -/
theorem Marks.congr (h : Marks wanted t marks) (hsame : ∀ u, wanted u ↔ other u) :
    Marks other t marks := by
  induction h with
  | nil hmark => exact .nil (hmark.trans (hsame _))
  | cons hmark _ ih => exact .cons (hmark.trans (hsame _)) ih

/-- Marks are put together tail by tail. -/
theorem Marks.or (h : Marks wanted t marks) (hother : Marks other t others) :
    Marks (fun u => wanted u ∨ other u) t (List.zipWith (· || ·) marks others) := by
  induction h generalizing others with
  | nil hmark =>
      cases hother with
      | nil hother => exact .nil (by rw [Bool.or_eq_true, hmark, hother])
  | cons hmark _ ih =>
      cases hother with
      | cons hother hrest => exact .cons (by rw [Bool.or_eq_true, hmark, hother]) (ih hrest)

/-- A test marks the tails that it accepts. -/
theorem marks_tails (accept : Text → Bool) (t : Text) :
    Marks (fun u => accept u = true) t (tails accept t) := by
  induction t with
  | nil => exact .nil Iff.rfl
  | cons c rest ih => exact .cons Iff.rfl ih

/-- Marks behind one character. -/
theorem Marks.oneTails (h : Marks wanted t marks) (set : CharSet) :
    Marks ((Piece.one set).Then wanted) t (Wildcard.oneTails set t marks) := by
  induction h with
  | nil => exact .nil (iff_of_false Bool.false_ne_true Piece.not_then_one_nil)
  | cons hmark hrest ih =>
      refine .cons ?_ ih
      rw [Bool.and_eq_true, Piece.then_one_cons]
      exact and_congr_right fun _ => hrest.head

/-- Marks behind a run. -/
theorem Marks.runTails (h : Marks wanted t marks) (set : CharSet) :
    Marks ((Piece.run set).Then wanted) t (Wildcard.runTails set t marks) := by
  induction h with
  | nil hmark => exact .nil (hmark.trans Piece.then_run_nil.symm)
  | cons hmark hrest ih =>
      refine .cons ?_ ih
      rw [Bool.or_eq_true, Bool.and_eq_true, Piece.then_run_cons]
      exact or_congr hmark (and_congr_right fun _ => ih.head)

/-- Marks behind a piece. -/
theorem Marks.pieceTails (h : Marks wanted t marks) (piece : Piece) :
    Marks (piece.Then wanted) t (Wildcard.pieceTails t marks piece) := by
  cases piece with
  | one set => exact h.oneTails set
  | run set => exact h.runTails set
  | folders =>
      exact (h.or ((h.oneTails _).runTails _)).congr fun _ => Piece.then_folders.symm

/-! ## Whole patterns -/

/-- Pieces stand for a text up to a rest that is accepted. -/
def Spelled (accept : Text → Bool) : List Piece → Text → Prop
  | [], t => accept t = true
  | piece :: rest, t => piece.Then (Spelled accept rest) t

/-- The marked tails are those that the pieces stand for. -/
theorem marks_matchTails (accept : Text → Bool) (pieces : List Piece) (t : Text) :
    Marks (Spelled accept pieces) t (matchTails accept pieces t) := by
  induction pieces with
  | nil => exact marks_tails accept t
  | cons piece rest ih => exact ih.pieceTails piece

/-- A pattern matches the texts that its pieces stand for. -/
theorem matchWhole_iff {pieces : List Piece} :
    matchWhole pieces t = true ↔ Spelled List.isEmpty pieces t :=
  (marks_matchTails List.isEmpty pieces t).head

/-- Pieces for single characters stand for these characters. -/
theorem spelled_single_append {accept : Text → Bool} {front : Text} {pieces : List Piece} :
    Spelled accept (front.map (fun c => .one (.single c)) ++ pieces) t ↔
      ∃ rest, t = front ++ rest ∧ Spelled accept pieces rest := by
  induction front generalizing t with
  | nil =>
      constructor
      · exact fun h => ⟨t, rfl, h⟩
      · rintro ⟨rest, rfl, h⟩
        exact h
  | cons c front ih =>
      constructor
      · rintro ⟨_, rest, rfl, ⟨d, hd, rfl⟩, hrest⟩
        cases CharSet.contains_single.mp hd
        obtain ⟨more, rfl, hmore⟩ := ih.mp hrest
        exact ⟨more, rfl, hmore⟩
      · rintro ⟨rest, rfl, h⟩
        exact Piece.then_one_cons.mpr ⟨CharSet.contains_single.mpr rfl, ih.mpr ⟨rest, rfl, h⟩⟩

/-- A run of any characters at the end of a pattern takes what is left. -/
theorem spelled_anything : Spelled List.isEmpty [.run .all] t :=
  ⟨t, [], (List.append_nil t).symm, fun c _ => CharSet.contains_all c, rfl⟩

end Wildcard

/-! ## Globs -/

namespace Glob

/-- The character stands for itself in a glob. -/
def IsPlain (c : CodePoint) : Prop :=
  c ≠ 0x2A ∧ c ≠ 0x3F ∧ c ≠ 0x5B

instance (c : CodePoint) : Decidable (IsPlain c) :=
  inferInstanceAs (Decidable (_ ∧ _ ∧ _))

/-- Plain characters at the front of a pattern stand for themselves. -/
theorem pieces_append {front : Text} (h : ∀ c ∈ front, IsPlain c) (rest : Text) :
    pieces (front ++ rest) = front.map (fun c => .one (.single c)) ++ pieces rest := by
  induction front with
  | nil => rfl
  | cons c front ih =>
      obtain ⟨hstar, hmark, hbracket⟩ := h c List.mem_cons_self
      have htail := ih fun d hd => h d (List.mem_cons_of_mem c hd)
      rw [pieces] at htail
      rw [pieces, List.cons_append, piecesAfter, if_neg hstar, if_neg hmark, if_neg hbracket, htail]
      rfl

variable {t : Text}

/-- A star at the end stands for whatever follows. -/
theorem matches_front_iff {front : Text} (h : ∀ c ∈ front, IsPlain c) :
    globMatches (front ++ [0x2A]) t = true ↔ front <+: t := by
  have hstar : pieces [0x2A] = [.run .all] := rfl
  rw [globMatches, Wildcard.matchWhole_iff, pieces_append h, hstar,
    Wildcard.spelled_single_append]
  constructor
  · rintro ⟨rest, rfl, _⟩
    exact List.prefix_append front rest
  · rintro ⟨rest, rfl⟩
    exact ⟨rest, rfl, Wildcard.spelled_anything⟩

/-- Stars at both ends stand for whatever is around. -/
theorem matches_inner_iff {inner : Text} (h : ∀ c ∈ inner, IsPlain c) :
    globMatches (0x2A :: inner ++ [0x2A]) t = true ↔ inner <:+: t := by
  have hpieces : pieces (0x2A :: inner ++ [0x2A]) = .run .all :: pieces (inner ++ [0x2A]) := rfl
  rw [globMatches, Wildcard.matchWhole_iff, hpieces]
  constructor
  · rintro ⟨before, rest, rfl, _, hrest⟩
    obtain ⟨more, rfl⟩ := (matches_front_iff h).mp (Wildcard.matchWhole_iff.mpr hrest)
    exact ⟨before, more, List.append_assoc before inner more⟩
  · rintro ⟨before, more, rfl⟩
    refine ⟨before, inner ++ more, List.append_assoc before inner more,
      fun c _ => CharSet.contains_all c, ?_⟩
    exact Wildcard.matchWhole_iff.mp ((matches_front_iff h).mpr (List.prefix_append inner more))

end Glob

end StoryCatalog

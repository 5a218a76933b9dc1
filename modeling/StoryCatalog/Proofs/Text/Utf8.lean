import StoryCatalog.Text.Utf8

/-!
# UTF-8 is read back as it was written

The bytes of a text without surrogates are read back as that text by all three readings
(`decodeWith_utf8`, `decode_utf8`). The first bytes of a text are the bytes of its first code points
(`take_utf8`), and a byte below `0x80` stands in the bytes of one code point only (`mem_utf8_iff`).
-/

namespace StoryCatalog

namespace Utf8

theorem toNat_ofNat {n : Nat} (h : n < 256) : (UInt8.ofNat n).toNat = n := by
  rw [UInt8.toNat_ofNat']
  exact Nat.mod_eq_of_lt h

theorem pointOf_val (c : CodePoint) : pointOf c.val = c := by
  simp [pointOf]

/-- The bytes behind the first one of a character are marked as such. -/
theorem isContinuation_ofNat {n : Nat} (h : n < 0x40) :
    isContinuation (UInt8.ofNat (0x80 + n)) = true := by
  simp only [isContinuation, toNat_ofNat (show 0x80 + n < 256 by omega), Bool.and_eq_true,
    decide_eq_true_eq]
  omega

/-- Each of them carries six bits. -/
theorem payload_ofNat {n : Nat} (h : n < 0x40) : payload (UInt8.ofNat (0x80 + n)) = n := by
  rw [payload, toNat_ofNat (by omega)]
  omega

/-- Two bytes are read as their character. -/
theorem front_two {c : CodePoint} (hlow : 0x80 ≤ c.val) (hhigh : c.val < 0x800) (rest : Bytes) :
    front (UInt8.ofNat (0xC0 + c.val / 0x40)) (UInt8.ofNat (0x80 + c.val % 0x40) :: rest) =
      .point c 2 := by
  have hlast : c.val % 0x40 < 0x40 := Nat.mod_lt _ (by decide)
  have hvalue : (0xC0 + c.val / 0x40) % 0x20 * 0x40 + c.val % 0x40 = c.val := by omega
  unfold front
  simp only [toNat_ofNat (show 0xC0 + c.val / 0x40 < 256 by omega)]
  rw [if_neg (by omega), if_neg (by omega), if_pos (by omega)]
  simp only [isContinuation_ofNat hlast, if_true, payload_ofNat hlast, hvalue, pointOf_val]

/-- Three bytes are read as their character, unless it is a surrogate. -/
theorem front_three {c : CodePoint} (hlow : 0x800 ≤ c.val) (hhigh : c.val < 0x10000)
    (hsurrogate : c.val < 0xD800 ∨ 0xDFFF < c.val) (rest : Bytes) :
    front (UInt8.ofNat (0xE0 + c.val / 0x1000))
        (UInt8.ofNat (0x80 + c.val / 0x40 % 0x40) :: UInt8.ofNat (0x80 + c.val % 0x40) :: rest) =
      .point c 3 := by
  have hlast : c.val % 0x40 < 0x40 := Nat.mod_lt _ (by decide)
  have hmiddle : c.val / 0x40 % 0x40 < 0x40 := Nat.mod_lt _ (by decide)
  have hvalue : ((0xE0 + c.val / 0x1000) % 0x10 * 0x40 + c.val / 0x40 % 0x40) * 0x40
      + c.val % 0x40 = c.val := by omega
  -- neither an overlong form nor a surrogate: those are what the second byte is asked about
  have hsecond : isSecondOfThree (UInt8.ofNat (0xE0 + c.val / 0x1000))
      (UInt8.ofNat (0x80 + c.val / 0x40 % 0x40)) = true := by
    simp only [isSecondOfThree, isContinuation_ofNat hmiddle, Bool.true_and, Bool.and_eq_true,
      Bool.or_eq_true, bne_iff_ne, decide_eq_true_eq, ne_eq,
      toNat_ofNat (show 0xE0 + c.val / 0x1000 < 256 by omega),
      toNat_ofNat (show 0x80 + c.val / 0x40 % 0x40 < 256 by omega)]
    omega
  unfold front
  simp only [toNat_ofNat (show 0xE0 + c.val / 0x1000 < 256 by omega)]
  rw [if_neg (by omega), if_neg (by omega), if_neg (by omega), if_pos (by omega)]
  simp only [hsecond, if_true, isContinuation_ofNat hlast, payload_ofNat hlast,
    payload_ofNat hmiddle, hvalue, pointOf_val]

/-- Four bytes are read as their character. -/
theorem front_four {c : CodePoint} (hlow : 0x10000 ≤ c.val) (rest : Bytes) :
    front (UInt8.ofNat (0xF0 + c.val / 0x40000))
        (UInt8.ofNat (0x80 + c.val / 0x1000 % 0x40) :: UInt8.ofNat (0x80 + c.val / 0x40 % 0x40)
          :: UInt8.ofNat (0x80 + c.val % 0x40) :: rest) =
      .point c 4 := by
  have hlt := c.isLt
  have hlast : c.val % 0x40 < 0x40 := Nat.mod_lt _ (by decide)
  have hmiddle : c.val / 0x40 % 0x40 < 0x40 := Nat.mod_lt _ (by decide)
  have hhigh : c.val / 0x1000 % 0x40 < 0x40 := Nat.mod_lt _ (by decide)
  have hvalue : (((0xF0 + c.val / 0x40000) % 0x08 * 0x40 + c.val / 0x1000 % 0x40) * 0x40
      + c.val / 0x40 % 0x40) * 0x40 + c.val % 0x40 = c.val := by omega
  -- neither an overlong form nor a number beyond the last code point
  have hsecond : isSecondOfFour (UInt8.ofNat (0xF0 + c.val / 0x40000))
      (UInt8.ofNat (0x80 + c.val / 0x1000 % 0x40)) = true := by
    simp only [isSecondOfFour, isContinuation_ofNat hhigh, Bool.true_and, Bool.and_eq_true,
      Bool.or_eq_true, bne_iff_ne, decide_eq_true_eq, ne_eq,
      toNat_ofNat (show 0xF0 + c.val / 0x40000 < 256 by omega),
      toNat_ofNat (show 0x80 + c.val / 0x1000 % 0x40 < 256 by omega)]
    omega
  unfold front
  simp only [toNat_ofNat (show 0xF0 + c.val / 0x40000 < 256 by omega)]
  rw [if_neg (by omega), if_neg (by omega), if_neg (by omega), if_neg (by omega),
    if_pos (by omega)]
  simp only [hsecond, if_true, isContinuation_ofNat hlast, isContinuation_ofNat hmiddle,
    payload_ofNat hlast, payload_ofNat hmiddle, payload_ofNat hhigh, hvalue, pointOf_val]

/-- The front of the bytes of a code point is the code point. -/
theorem front_utf8 {c : CodePoint} (h : c.isSurrogate = false) (rest : Bytes) :
    ∃ lead tail, c.utf8 = lead :: tail ∧
      front lead (tail ++ rest) = .point c (tail.length + 1) := by
  have hsurrogate : c.val < 0xD800 ∨ 0xDFFF < c.val := by
    simp only [CodePoint.isSurrogate, Bool.and_eq_false_iff, decide_eq_false_iff_not] at h
    omega
  unfold CodePoint.utf8
  split
  · rename_i hone
    refine ⟨_, _, rfl, ?_⟩
    unfold front
    simp only [toNat_ofNat (show c.val < 256 by omega), hone, if_true, pointOf_val]
    rfl
  split
  · rename_i hone htwo
    exact ⟨_, _, rfl, front_two (by omega) htwo rest⟩
  split
  · rename_i hone htwo hthree
    exact ⟨_, _, rfl, front_three (by omega) hthree hsurrogate rest⟩
  · rename_i hone htwo hthree
    exact ⟨_, _, rfl, front_four (by omega) rest⟩

end Utf8

/-- The characters of a string are no surrogates. -/
theorem CodePoint.isSurrogate_ofChar (c : Char) : (CodePoint.ofChar c).isSurrogate = false := by
  have h := c.valid
  have hval : (CodePoint.ofChar c).val = c.val.toNat := rfl
  simp only [UInt32.isValidChar, Nat.isValidChar] at h
  simp only [isSurrogate, hval, Bool.and_eq_false_iff, decide_eq_false_iff_not]
  omega

/-- Every byte of a longer sequence is at least `0x80`. -/
theorem CodePoint.le_of_mem_utf8 {c : CodePoint} {b : UInt8} (hc : 0x80 ≤ c.val) (h : b ∈ c.utf8) :
    0x80 ≤ b.toNat := by
  have hlt := c.isLt
  unfold utf8 at h
  split at h
  · omega
  split at h
  · simp only [List.mem_cons, List.not_mem_nil, or_false] at h
    rcases h with rfl | rfl <;> rw [Utf8.toNat_ofNat (by omega)] <;> omega
  split at h
  · simp only [List.mem_cons, List.not_mem_nil, or_false] at h
    rcases h with rfl | rfl | rfl <;> rw [Utf8.toNat_ofNat (by omega)] <;> omega
  · simp only [List.mem_cons, List.not_mem_nil, or_false] at h
    rcases h with rfl | rfl | rfl | rfl <;> rw [Utf8.toNat_ofNat (by omega)] <;> omega

/-- A small code point is its own byte. -/
theorem CodePoint.utf8_of_lt {c : CodePoint} (h : c.val < 0x80) : c.utf8 = [UInt8.ofNat c.val] := by
  rw [utf8, if_pos h]

/-- A byte below `0x80` stands for the code point with its number, and is part of no other. -/
theorem CodePoint.mem_utf8_iff {c : CodePoint} {b : UInt8} (h : b.toNat < 0x80) :
    b ∈ c.utf8 ↔ b.toNat = c.val := by
  by_cases hc : c.val < 0x80
  · rw [utf8_of_lt hc, List.mem_singleton, ← UInt8.toNat_inj, Utf8.toNat_ofNat (by omega)]
  · constructor
    · intro hmem
      have := le_of_mem_utf8 (by omega) hmem
      omega
    · intro heq
      omega

namespace Text

/-- A string has no surrogates. -/
theorem isScalar_ofString (s : String) : (ofString s).isScalar = true := by
  simp [isScalar, ofString, CodePoint.isSurrogate_ofChar]

theorem isScalar_cons {c : CodePoint} {t : Text} :
    isScalar (c :: t) = true ↔ c.isSurrogate = false ∧ t.isScalar = true := by
  simp [isScalar]

/-- What has only code points of a text without surrogates has none either. -/
theorem isScalar_of_mem {t u : Text} (h : t.isScalar = true) (hmem : ∀ c ∈ u, c ∈ t) :
    u.isScalar = true :=
  List.all_eq_true.mpr fun c hc => List.all_eq_true.mp h c (hmem c hc)

@[simp] theorem utf8_nil : utf8 [] = [] := rfl

@[simp] theorem utf8_cons (c : CodePoint) (t : Text) : utf8 (c :: t) = c.utf8 ++ utf8 t := by
  simp [utf8]

@[simp] theorem utf8_append (first second : Text) :
    utf8 (first ++ second) = utf8 first ++ utf8 second := by
  simp [utf8]

/-- The bytes of the first code points are the first bytes. -/
theorem take_utf8 (t : Text) (k : Nat) :
    t.utf8.take (utf8 (t.take k)).length = utf8 (t.take k) := by
  have h : t.utf8 = utf8 (t.take k) ++ utf8 (t.drop k) := by
    rw [← utf8_append, List.take_append_drop]
  rw [h, List.take_left]

end Text

namespace Utf8

/-- A text without surrogates is read back from its bytes, whatever is put for ill-formed parts. -/
theorem decodeWith_utf8 (substitute : Text) {t : Text} (h : t.isScalar = true) :
    decodeWith substitute t.utf8 = t := by
  induction t with
  | nil => simp [decodeWith]
  | cons c t ih =>
      obtain ⟨hc, ht⟩ := Text.isScalar_cons.mp h
      obtain ⟨lead, tail, hutf8, hfront⟩ := front_utf8 hc (Text.utf8 t)
      rw [Text.utf8_cons, hutf8, List.cons_append, decodeWith, hfront]
      simp only [Nat.add_sub_cancel, List.drop_left]
      rw [ih ht]

/-- The bytes of a text without surrogates are decoded to it, behind what was read before. -/
theorem decodeFrom_utf8 (offset : Nat) (before : Text) {t : Text} (h : t.isScalar = true) :
    decodeFrom offset before t.utf8 = .ok (before.reverse ++ t) := by
  induction t generalizing offset before with
  | nil => simp [decodeFrom]
  | cons c t ih =>
      obtain ⟨hc, ht⟩ := Text.isScalar_cons.mp h
      obtain ⟨lead, tail, hutf8, hfront⟩ := front_utf8 hc (Text.utf8 t)
      rw [Text.utf8_cons, hutf8, List.cons_append, decodeFrom, hfront]
      simp only [Nat.add_sub_cancel, List.drop_left]
      rw [ih _ _ ht]
      simp

/-- A text without surrogates is read back from its bytes strictly. -/
theorem decode_utf8 {t : Text} (h : t.isScalar = true) : decode t.utf8 = .ok t :=
  decodeFrom_utf8 0 [] h

end Utf8

end StoryCatalog

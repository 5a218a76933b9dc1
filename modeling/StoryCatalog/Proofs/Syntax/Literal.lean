import Mathlib.Data.Nat.Digits.Defs
import StoryCatalog.Proofs.Text.Utf8
import StoryCatalog.Syntax.Cst

/-!
# String literals have the values that they spell

`Escape.Spells` lists the escape sequences of strict code and what each of them stands for, and
`Cst.Spelled` says when the parts of a literal, fragments of raw text and escape sequences, spell a
text. Decoding gives back what was spelled, for one escape (`Escape.decode_of_spells`) and for the
literal (`Cst.stringValue_of_spelled`).

An escape stands for one code point. Two escapes for the halves of a surrogate pair therefore spell
two code points, in the way in which the escapes of a literal denote two code units.
-/

namespace StoryCatalog

/-- Taking away marks from both ends leaves what has none, if it is not empty. -/
theorem Text.dropWhile_both_ends {p : CodePoint → Bool} (before after : Text) {t : Text}
    (hbefore : ∀ c ∈ before, p c = true) (hafter : ∀ c ∈ after, p c = true) (hne : t ≠ [])
    (h : ∀ c ∈ t, p c = false) :
    (((before ++ t ++ after).dropWhile p).reverse.dropWhile p).reverse = t := by
  have hstop : ∀ {u rest : Text}, u ≠ [] → (∀ c ∈ u, p c = false) →
      (u ++ rest).dropWhile p = u ++ rest := by
    intro u rest hu hnone
    cases u with
    | nil => exact absurd rfl hu
    | cons c u =>
        rw [List.cons_append, List.dropWhile_cons, if_neg (by simp [hnone c List.mem_cons_self])]
  rw [List.append_assoc, List.dropWhile_append_of_pos hbefore, hstop hne h, List.reverse_append,
    List.dropWhile_append_of_pos (by simpa using hafter), ← List.append_nil t.reverse,
    hstop (by simpa using hne) (by simpa using h), List.append_nil, List.reverse_reverse]

/-- An ASCII digit has the value that its distance from `0` gives it. -/
theorem CodePoint.decimalValue?_of_ascii {c : CodePoint} (hlow : 0x30 ≤ c.val)
    (hhigh : c.val ≤ 0x39) : c.decimalValue? = some (c.val - 0x30) := by
  have hfirst : zeroDigits.find? (fun start => start ≤ c.val && c.val < start + 10) =
      some 0x30 := by
    rw [← Array.find?_toList]
    refine List.find?_cons_of_pos ?_
    simp only [Bool.and_eq_true, decide_eq_true_eq]
    omega
  rw [decimalValue?, hfirst]
  rfl

namespace Escape

/-! ## Hexadecimal numbers -/

/-- A hexadecimal digit, in either case, with its value. -/
inductive IsHexDigit (c : CodePoint) : Nat → Prop where
  | decimal : 0x30 ≤ c.val → c.val ≤ 0x39 → IsHexDigit c (c.val - 0x30)
  | capital : 0x41 ≤ c.val → c.val ≤ 0x46 → IsHexDigit c (c.val - 0x41 + 10)
  | small : 0x61 ≤ c.val → c.val ≤ 0x66 → IsHexDigit c (c.val - 0x61 + 10)

/-- Hexadecimal digits with the number that they write, zeros in front included. -/
def HexNumber (digits : Text) (n : Nat) : Prop :=
  ∃ values, List.Forall₂ IsHexDigit digits values ∧ Nat.ofDigits 16 values.reverse = n

section

variable {c : CodePoint} {n : Nat}

theorem IsHexDigit.lt (h : IsHexDigit c n) : n < 16 := by
  cases h <;> omega

/-- A hexadecimal digit lies in one of the three ASCII ranges that hold them. -/
theorem IsHexDigit.range (h : IsHexDigit c n) :
    0x30 ≤ c.val ∧ c.val ≤ 0x39 ∨ 0x41 ≤ c.val ∧ c.val ≤ 0x46 ∨
      0x61 ≤ c.val ∧ c.val ≤ 0x66 := by
  cases h <;> omega

/-- The number reader gives a hexadecimal digit the value the relation gives it. -/
theorem IsHexDigit.digitValue? (h : IsHexDigit c n) : c.digitValue? = some n := by
  unfold CodePoint.digitValue?
  cases h with
  | decimal hlow hhigh =>
      rw [if_neg (by simp; omega), if_neg (by simp; omega)]
      exact CodePoint.decimalValue?_of_ascii hlow hhigh
  | capital hlow hhigh => rw [if_pos (by simp; omega)]
  | small hlow hhigh => rw [if_neg (by simp; omega), if_pos (by simp; omega)]

/-- No hexadecimal digit is among the blanks a number may be surrounded with. -/
theorem IsHexDigit.isNumberBlank (h : IsHexDigit c n) : isNumberBlank c = false := by
  have hrange := h.range
  unfold Escape.isNumberBlank
  rw [if_pos (by omega)]
  simp
  omega

/-- A hexadecimal digit is none of the other marks that a number may have. -/
theorem IsHexDigit.ne {d : CodePoint} (h : IsHexDigit c n)
    (hd : d ∈ ([0x2B, 0x2D, 0x58, 0x5F, 0x78, 0x7B, 0x7D] : Text)) : c ≠ d := by
  rintro rfl
  have hrange := h.range
  simp only [List.mem_cons, List.not_mem_nil, or_false] at hd
  rcases hd with rfl | rfl | rfl | rfl | rfl | rfl | rfl <;> revert hrange <;> decide

theorem IsHexDigit.isBrace (h : IsHexDigit c n) : isBrace c = false := by
  simp [Escape.isBrace, h.ne (d := 0x7B) (by decide), h.ne (d := 0x7D) (by decide)]

end

section

variable {digits : Text} {values : List Nat}

/-- Reading one hexadecimal digit multiplies the value so far by sixteen and adds the digit. -/
theorem digitsValue?_cons {c : CodePoint} {d : Nat} (h : IsHexDigit c d) (value : Nat)
    (afterDigit : Bool) (rest : Text) :
    digitsValue? 16 value afterDigit (c :: rest) =
      digitsValue? 16 (value * 16 + d) true rest := by
  rw [digitsValue?, if_neg (h.ne (by decide)), h.digitValue?]
  exact if_pos h.lt

/-- A run of hexadecimal digits is read as the positional value of its digits. -/
theorem digitsValue?_of_forall₂ (h : List.Forall₂ IsHexDigit digits values) (value : Nat) :
    digitsValue? 16 value true digits =
      some (values.foldl (fun n d => n * 16 + d) value) := by
  induction h generalizing value with
  | nil => rfl
  | cons hdigit _ ih => rw [digitsValue?_cons hdigit, ih, List.foldl_cons]

theorem foldl_eq_ofDigits (values : List Nat) :
    values.foldl (fun n d => n * 16 + d) 0 = Nat.ofDigits 16 values.reverse := by
  rw [Nat.ofDigits_eq_foldr, List.foldr_reverse]
  congr 1
  funext n d
  simp only [Nat.cast_id]
  omega

theorem exists_of_mem (h : List.Forall₂ IsHexDigit digits values) :
    ∀ c ∈ digits, ∃ d, IsHexDigit c d := by
  induction h with
  | nil => simp
  | cons hdigit _ ih => exact List.forall_mem_cons.mpr ⟨⟨_, hdigit⟩, ih⟩

/-- Hexadecimal digits carry no brace that the decoder would strip off. -/
theorem stripMark_eq_self (h : List.Forall₂ IsHexDigit digits values) :
    stripMark digits = digits := by
  unfold stripMark
  split
  · rename_i x rest
    cases h with
    | cons _ hrest =>
        cases hrest with
        | cons hx _ => simp [hx.ne (d := 0x78) (by decide), hx.ne (d := 0x58) (by decide)]
  · rfl

/-- Hexadecimal digits are read as the number that they write. -/
theorem integer?_of_hexNumber {n : Nat} (hne : digits ≠ []) (h : HexNumber digits n) :
    integer? 16 digits = some (n : Int) := by
  obtain ⟨values, hdigits, rfl⟩ := h
  have hbody : ((digits.dropWhile isNumberBlank).reverse.dropWhile isNumberBlank).reverse =
      digits := by
    have hblank : ∀ c ∈ digits, isNumberBlank c = false := by
      intro c hc
      obtain ⟨d, hd⟩ := exists_of_mem hdigits c hc
      exact hd.isNumberBlank
    simpa using Text.dropWhile_both_ends [] [] (by simp) (by simp) hne hblank
  have hsize : digitsValue? 16 0 false (stripMark digits) =
      some (Nat.ofDigits 16 values.reverse) := by
    rw [stripMark_eq_self hdigits, ← foldl_eq_ofDigits]
    cases hdigits with
    | nil => exact absurd rfl hne
    | cons hdigit hrest =>
        rw [digitsValue?_cons hdigit, digitsValue?_of_forall₂ hrest, List.foldl_cons]
  unfold integer?
  simp only [hbody, if_true]
  -- a digit in front leaves no room for a sign
  split
  · cases hdigits with
    | cons hdigit _ => exact absurd rfl (hdigit.ne (by decide))
  · cases hdigits with
    | cons hdigit _ => exact absurd rfl (hdigit.ne (by decide))
  · rw [hsize]
    rfl

/-- The digits of an escape are found with braces around them and without. -/
theorem stripBraces_of_hexNumber {n : Nat} (hne : digits ≠ []) (h : HexNumber digits n)
    {before after : Text} (hbefore : ∀ c ∈ before, isBrace c = true)
    (hafter : ∀ c ∈ after, isBrace c = true) :
    stripBraces (before ++ digits ++ after) = digits := by
  obtain ⟨values, hdigits, _⟩ := h
  refine Text.dropWhile_both_ends before after hbefore hafter hne ?_
  intro c hc
  obtain ⟨d, hd⟩ := exists_of_mem hdigits c hc
  exact hd.isBrace

end

/-! ## Escape sequences -/

/-- The letters that stand for a control character behind a backslash, and the zero. -/
def letterValues : List (CodePoint × CodePoint) :=
  [(0x62, 0x08), (0x66, 0x0C), (0x6E, 0x0A), (0x72, 0x0D), (0x74, 0x09), (0x76, 0x0B),
    (0x30, 0x00)]

/-- The line ends: line feed, carriage return, both together, line separator and paragraph
separator. -/
def lineEnds : List Text :=
  [[0x0A], [0x0D], [0x0D, 0x0A], [0x2028], [0x2029]]

/-- Behind a backslash the character stands for itself: it is no digit, starts no other escape and
ends no line. -/
def StandsForItself (c : CodePoint) : Prop :=
  ¬(0x30 ≤ c.val ∧ c.val ≤ 0x39) ∧
    c ∉ ([0x62, 0x66, 0x6E, 0x72, 0x74, 0x76, 0x78, 0x75] : Text) ∧
    c ∉ ([0x0A, 0x0D, 0x2028, 0x2029] : Text)

/-- An escape sequence of strict code, with its backslash, spells a text: one code point, or nothing
when it continues the line. -/
inductive Spells : Text → Text → Prop where
  | letter {c value : CodePoint} : (c, value) ∈ letterValues → Spells [0x5C, c] [value]
  | twoDigits {a b value : CodePoint} :
      HexNumber [a, b] value.val → Spells [0x5C, 0x78, a, b] [value]
  | fourDigits {a b c d value : CodePoint} :
      HexNumber [a, b, c, d] value.val → Spells [0x5C, 0x75, a, b, c, d] [value]
  | braced {digits : Text} {value : CodePoint} : digits ≠ [] → HexNumber digits value.val →
      Spells (0x5C :: 0x75 :: 0x7B :: digits ++ [0x7D]) [value]
  | itself {c : CodePoint} : StandsForItself c → Spells [0x5C, c] [c]
  | continuation {lineEnd : Text} : lineEnd ∈ lineEnds → Spells (0x5C :: lineEnd) []

/-- The digits of an escape, in braces or not, are decoded to the code point of their number. -/
theorem decode_of_hexNumber {mark : CodePoint} (hmark : mark = 0x75 ∨ mark = 0x78)
    (before after : Text) {digits : Text} {value : CodePoint} (hne : digits ≠ [])
    (h : HexNumber digits value.val) (hbefore : ∀ c ∈ before, isBrace c = true)
    (hafter : ∀ c ∈ after, isBrace c = true) :
    decode (0x5C :: mark :: (before ++ digits ++ after)) = [value] := by
  have hrest : (before ++ digits ++ after).isEmpty = false := by
    simp [hne]
  have hletter : letterValue? (mark :: (before ++ digits ++ after)) = none := by
    cases hcons : before ++ digits ++ after with
    | nil => simp [hcons] at hrest
    | cons c rest => rfl
  have hline : isLineTerminator mark = false := by
    rcases hmark with rfl | rfl <;> decide
  have hpoint : (integer? 16 (stripBraces (before ++ digits ++ after))).bind pointOfInt? =
      some value := by
    rw [stripBraces_of_hexNumber hne h hbefore hafter, integer?_of_hexNumber hne h,
      Option.bind_some, pointOfInt?, if_neg (by omega), Int.toNat_natCast, CodePoint.ofNat?,
      dif_pos value.isLt]
  have hhex : ((decide (mark = 0x75) || decide (mark = 0x78)) &&
      !(before ++ digits ++ after).isEmpty) = true := by
    rw [hrest]
    simp [hmark]
  rw [decode]
  simp only [List.drop_succ_cons, List.drop_zero, hletter, hline, hhex, hpoint, Bool.false_eq_true,
    if_false, if_true]

/-- An escape sequence is decoded to what it spells. -/
theorem decode_of_spells {raw value : Text} (h : Spells raw value) : decode raw = value := by
  cases h with
  | letter hletter =>
      simp only [letterValues, List.mem_cons, List.not_mem_nil, or_false, Prod.mk.injEq] at hletter
      rcases hletter with ⟨rfl, rfl⟩ | ⟨rfl, rfl⟩ | ⟨rfl, rfl⟩ | ⟨rfl, rfl⟩ | ⟨rfl, rfl⟩ |
        ⟨rfl, rfl⟩ | ⟨rfl, rfl⟩ <;> decide
  | twoDigits hnumber =>
      exact decode_of_hexNumber (.inr rfl) [] [] (by simp) hnumber (by simp) (by simp)
  | fourDigits hnumber =>
      exact decode_of_hexNumber (.inl rfl) [] [] (by simp) hnumber (by simp) (by simp)
  | braced hne hnumber =>
      exact decode_of_hexNumber (.inl rfl) [0x7B] [0x7D] hne hnumber (by simp [isBrace])
        (by simp [isBrace])
  | @itself c hitself =>
      obtain ⟨hdigit, hstart, hend⟩ := hitself
      simp only [List.mem_cons, List.not_mem_nil, or_false, not_or] at hstart hend
      obtain ⟨hb, hf, hn, hr, ht, hv, hx, hu⟩ := hstart
      have hzero : c ≠ 0x30 := by
        rintro rfl
        exact hdigit (by decide)
      have hletter : letterValue? [c] = none := by
        simp [letterValue?, hb, hf, hn, hr, ht, hv, hzero]
      have hline : isLineTerminator c = false := by
        simp [isLineTerminator, hend]
      rw [decode]
      simp [hletter, hline, hx, hu]
  | continuation hend =>
      simp only [lineEnds, List.mem_cons, List.not_mem_nil, or_false] at hend
      rcases hend with rfl | rfl | rfl | rfl | rfl <;> decide

end Escape

/-! ## Literals -/

namespace Cst

/-- The node stands on the bytes of a text of the source. -/
def StandsOn (source : Bytes) (node : Cst) (t : Text) : Prop :=
  t.isScalar = true ∧ slice source node.start node.stop = t.utf8

/-- The text of a node is what stands at its place in the source. -/
theorem StandsOn.text {source : Bytes} {node : Cst} {t : Text} (h : node.StandsOn source t) :
    node.text source = t := by
  rw [Cst.text, Utf8.decodeIgnoring, h.2, Utf8.decodeWith_utf8 _ h.1]

/-- The parts of a string literal spell a text: a fragment the text that it stands on, and an escape
sequence what that text spells. -/
inductive Spelled (source : Bytes) : List Cst → Text → Prop where
  | nil : Spelled source [] []
  | fragment {node : Cst} {nodes : List Cst} {part value : Text} :
      node.type = "string_fragment" → node.StandsOn source part →
      Spelled source nodes value → Spelled source (node :: nodes) (part ++ value)
  | escape {node : Cst} {nodes : List Cst} {raw part value : Text} :
      node.type = "escape_sequence" → node.StandsOn source raw → Escape.Spells raw part →
      Spelled source nodes value → Spelled source (node :: nodes) (part ++ value)

/-- The value of a string literal is the text that its parts spell, however they spell it. -/
theorem stringValue_of_spelled {source : Bytes} {node : Cst} {value : Text}
    (h : Spelled source node.namedChildren value) : node.stringValue source = value := by
  unfold stringValue
  generalize node.namedChildren = nodes at h ⊢
  induction h with
  | nil => rfl
  | fragment htype hstands _ ih =>
      rw [List.flatMap_cons, ih]
      simp [htype, hstands.text]
  | escape htype hstands hspells _ ih =>
      rw [List.flatMap_cons, ih]
      simp [htype, hstands.text, Escape.decode_of_spells hspells]

end Cst

/-! ## A literal with escapes of every kind -/

namespace EscapedName

/-- The source: `'éA\x4a\u{0001F600}\q`, a backslash at the end of the line, and `\0'`. -/
def source : Text :=
  "'éA\\x4a\\u\x7b0001F600\x7d\\q\\\n\\0'"

/-- A part of the literal. -/
def part (type : String) (start stop : Int) : Cst :=
  .make type start stop true false none none []

/-- A quote, which is no part of the value. -/
def quote (start stop : Int) : Cst :=
  .make "'" start stop false false none none []

/-- The literal. -/
def literal : Cst :=
  .make "string" 0 27 true false none none
    [quote 0 1, part "string_fragment" 1 4, part "escape_sequence" 4 8,
      part "escape_sequence" 8 20, part "escape_sequence" 20 22, part "escape_sequence" 22 24,
      part "escape_sequence" 24 26, quote 26 27]

/-- What the literal denotes. -/
def value : Text :=
  "éAJ😀q\x00"

/-- The value of the literal is found although each of its parts is spelled in another way. -/
theorem stringValue_literal : Cst.Spelled source.utf8 literal.namedChildren value ∧
    literal.stringValue source.utf8 = value := by
  have hbyte : Escape.Spells "\\x4a" [0x4A] := by
    refine .twoDigits (a := 0x34) (b := 0x61) ⟨[4, 10], ?_, by decide⟩
    exact .cons (.decimal (by decide) (by decide))
      (.cons (.small (by decide) (by decide)) .nil)
  have hnumber : Escape.HexNumber "0001F600" (0x1F600 : CodePoint).val := by
    refine ⟨[0, 0, 0, 1, 15, 6, 0, 0], ?_, by decide⟩
    have hzero : Escape.IsHexDigit 0x30 0 := .decimal (by decide) (by decide)
    exact .cons hzero (.cons hzero (.cons hzero (.cons (.decimal (by decide) (by decide))
      (.cons (.capital (by decide) (by decide)) (.cons (.decimal (by decide) (by decide))
        (.cons hzero (.cons hzero .nil)))))))
  have hbraced : Escape.Spells "\\u\x7b0001F600\x7d" [0x1F600] := by
    have hne : Text.ofString "0001F600" ≠ [] := by decide
    exact Escape.Spells.braced hne hnumber
  have hitself : Escape.Spells "\\q" [0x71] := .itself ⟨by decide, by decide, by decide⟩
  have hcontinuation : Escape.Spells "\\\n" [] :=
    .continuation (show [0x0A] ∈ Escape.lineEnds by decide)
  have hzero : Escape.Spells "\\0" [0x00] := .letter (c := 0x30) (by decide)
  have hfragment : (part "string_fragment" 1 4).StandsOn source.utf8 "éA" :=
    ⟨by decide, by decide⟩
  have hspelled : Cst.Spelled source.utf8 literal.namedChildren value :=
    .fragment rfl hfragment
      (.escape rfl ⟨by decide, by decide⟩ hbyte
        (.escape rfl ⟨by decide, by decide⟩ hbraced
          (.escape rfl ⟨by decide, by decide⟩ hitself
            (.escape rfl ⟨by decide, by decide⟩ hcontinuation
              (.escape rfl ⟨by decide, by decide⟩ hzero .nil)))))
  exact ⟨hspelled, Cst.stringValue_of_spelled hspelled⟩

end EscapedName

end StoryCatalog

import Mathlib.Data.List.TakeWhile
import StoryCatalog.Json.Reader
import StoryCatalog.Json.Writer

/-!
# Strings and numbers are read back from JSON

The text of a string or of an integer, followed by whatever may stand behind it, is read back as
that string (`string?_flatMap_escaped`) or integer (`number?_ofInt`), and what stands behind it is
left.
-/

namespace StoryCatalog

namespace Json

/-! ## Strings -/

/-- A written digit of base sixteen is read back. -/
theorem hexValue?_hexDigit (n : Nat) : hexValue? (Text.hexDigit n) = some (n % 16) := by
  have hdigit : ∀ k < 16,
      hexValue? (CodePoint.ofChar ((Nat.toDigits 16 k).headD '0')) = some k := by decide
  exact hdigit (n % 16) (Nat.mod_lt _ (by decide))

/-- Four hexadecimal digits are read back. -/
theorem hexFour?_hexField {n : Nat} (h : n < 0x10000) (rest : Text) :
    hexFour? (Text.hexField 4 n ++ rest) = some (n, rest) := by
  have hvalue : ((n / 16 / 16 / 16 % 16 * 16 + n / 16 / 16 % 16) * 16 + n / 16 % 16) * 16 + n % 16
      = n := by omega
  simp only [Text.hexField, List.nil_append, List.cons_append, hexFour?, hexValue?_hexDigit,
    Option.bind_eq_bind, Option.bind_some, Option.pure_def, hvalue]

theorem bind_eq_map {α : Type} (found : Option (Text × α)) (c : CodePoint) :
    (found.bind fun pair => some (c :: pair.1, pair.2)) =
      found.map fun pair => (c :: pair.1, pair.2) := by
  cases found <;> rfl

/-- A short escape stands for its character. -/
theorem stringRest?_short {c d : CodePoint} (hd : d ≠ 0x75) (h : shortEscape? d = some c)
    (rounds : Nat) (rest : Text) :
    stringRest? (rounds + 1) (0x5C :: d :: rest) =
      (stringRest? rounds rest).map fun found => (c :: found.1, found.2) := by
  rw [stringRest?, if_neg (by decide), if_pos rfl]
  simp only [if_neg hd, h, Option.map_some, Option.bind_eq_bind, Option.bind_some, Option.pure_def]
  exact bind_eq_map _ c

/-- The number of a control character is read back from four digits. -/
theorem unicodeEscape?_hexField {c : CodePoint} (h : c.val < 0x20) (rest : Text) :
    unicodeEscape? (Text.hexField 4 c.val ++ rest) = some (c, rest) := by
  have hpoint : CodePoint.ofNat? c.val = some c := by
    rw [CodePoint.ofNat?, dif_pos c.isLt]
  rw [unicodeEscape?, hexFour?_hexField (by omega)]
  simp only [Option.bind_eq_bind, Option.bind_some]
  rw [if_neg (by simp; omega), if_neg (by simp; omega), hpoint]
  rfl

/-- One escaped character takes one round. -/
theorem stringRest?_escaped (c : CodePoint) (rounds : Nat) (rest : Text) :
    stringRest? (rounds + 1) (escaped c ++ rest) =
      (stringRest? rounds rest).map fun found => (c :: found.1, found.2) := by
  by_cases hshort : c ∈ [0x22, 0x5C, 0x08, 0x09, 0x0A, 0x0C, 0x0D]
  · simp only [List.mem_cons, List.not_mem_nil, or_false] at hshort
    rcases hshort with rfl | rfl | rfl | rfl | rfl | rfl | rfl <;>
      exact stringRest?_short (by decide) (by decide) rounds rest
  · simp only [List.mem_cons, List.not_mem_nil, or_false, not_or] at hshort
    by_cases hcontrol : c.val < 0x20
    · have hescaped : escaped c = 0x5C :: 0x75 :: Text.hexField 4 c.val := by
        simp only [escaped, hshort, hcontrol, if_false, if_true]
        rfl
      rw [hescaped, List.cons_append, List.cons_append, stringRest?, if_neg (by decide), if_pos rfl]
      simp only [if_true, unicodeEscape?_hexField hcontrol, Option.bind_eq_bind, Option.bind_some,
        Option.pure_def]
      exact bind_eq_map _ c
    · have hescaped : escaped c = [c] := by
        simp only [escaped, hshort, hcontrol, if_false]
      rw [hescaped, List.singleton_append]
      simp only [stringRest?, hshort, hcontrol, if_false, Option.bind_eq_bind, Option.pure_def]
      exact bind_eq_map _ c

/-- An escaped text is read back up to the mark behind it. -/
theorem stringRest?_flatMap_escaped (t : Text) {rounds : Nat} (h : t.length < rounds)
    (rest : Text) :
    stringRest? rounds (t.flatMap escaped ++ 0x22 :: rest) = some (t, rest) := by
  induction t generalizing rounds with
  | nil =>
      cases rounds with
      | zero => simp at h
      | succ rounds => simp [stringRest?]
  | cons c t ih =>
      cases rounds with
      | zero => simp at h
      | succ rounds =>
          rw [List.length_cons] at h
          rw [List.flatMap_cons, List.append_assoc, stringRest?_escaped, ih (by omega)]
          rfl

/-- No character is escaped into nothing. -/
theorem length_le_flatMap_escaped (t : Text) : t.length ≤ (t.flatMap escaped).length := by
  induction t with
  | nil => exact Nat.le_refl _
  | cons c t ih =>
      have hpos : 1 ≤ (escaped c).length := by
        unfold escaped
        repeat' split
        all_goals simp [Text.ofString]
      rw [List.flatMap_cons, List.length_append, List.length_cons]
      omega

/-- A string is read back behind its opening quote. -/
theorem string?_flatMap_escaped (t rest : Text) :
    string? (t.flatMap escaped ++ 0x22 :: rest) = some (t, rest) := by
  have hlength := length_le_flatMap_escaped t
  refine stringRest?_flatMap_escaped t ?_ rest
  rw [List.length_append, List.length_cons]
  omega

/-! ## Integers -/

/-- The last digit of a number in decimal. -/
theorem ofNat_eq (n : Nat) :
    Text.ofNat n =
      (if n < 10 then [] else Text.ofNat (n / 10)) ++ [CodePoint.ofChar (n % 10).digitChar] := by
  split
  · rename_i h
    rw [Text.ofNat, Nat.toDigits_of_lt_base h, Nat.mod_eq_of_lt h]
    rfl
  · rename_i h
    rw [Text.ofNat, Nat.toDigits_of_base_le (by decide) (by omega), List.map_append]
    rfl

theorem val_digitChar {n : Nat} (h : n < 10) : (CodePoint.ofChar n.digitChar).val = 0x30 + n := by
  have hdigit : ∀ k < 10, (CodePoint.ofChar k.digitChar).val = 0x30 + k := by decide
  exact hdigit n h

theorem isDigit_digitChar {n : Nat} (h : n < 10) :
    isDigit (CodePoint.ofChar n.digitChar) = true := by
  simp only [isDigit, val_digitChar h, Bool.and_eq_true, decide_eq_true_eq]
  omega

/-- Every number has a digit. -/
theorem ofNat_ne_nil (n : Nat) : Text.ofNat n ≠ [] := by
  rw [ofNat_eq]
  simp

theorem head?_ofNat_append (n : Nat) (rest : Text) :
    (Text.ofNat n ++ rest).head? = (Text.ofNat n).head? := by
  cases h : Text.ofNat n with
  | nil => exact absurd h (ofNat_ne_nil n)
  | cons c digits => rfl

/-- A number is written in digits only. -/
theorem isDigit_of_mem_ofNat {n : Nat} {c : CodePoint} (h : c ∈ Text.ofNat n) :
    isDigit c = true := by
  induction n using Nat.strongRecOn with
  | ind n ih =>
      rw [ofNat_eq, List.mem_append, List.mem_singleton] at h
      rcases h with h | rfl
      · split at h
        · simp at h
        · exact ih (n / 10) (by omega) h
      · exact isDigit_digitChar (Nat.mod_lt _ (by decide))

/-- Decimal digits have the value that they were written for. -/
theorem digitsValue_ofNat (n : Nat) : digitsValue (Text.ofNat n) = n := by
  induction n using Nat.strongRecOn with
  | ind n ih =>
      have hmod : n % 10 < 10 := Nat.mod_lt _ (by decide)
      rw [ofNat_eq, digitsValue, List.foldl_append]
      show 10 * digitsValue _ + _ = n
      rw [val_digitChar hmod]
      split
      · simp only [digitsValue, List.foldl_nil]
        omega
      · rw [ih (n / 10) (by omega)]
        omega

/-- Only zero is written with a zero in front. -/
theorem eq_zero_of_head?_ofNat {n : Nat} (h : (Text.ofNat n).head? = some 0x30) : n = 0 := by
  induction n using Nat.strongRecOn with
  | ind n ih =>
      rw [ofNat_eq] at h
      split at h
      · rename_i hlt
        have hval := val_digitChar (Nat.mod_lt n (show 10 > 0 by decide))
        rw [List.nil_append, List.head?_cons] at h
        rw [Option.some.inj h, Nat.mod_eq_of_lt hlt] at hval
        have : (0x30 : CodePoint).val = 0x30 := by decide
        omega
      · rename_i hge
        rw [head?_ofNat_append] at h
        have := ih (n / 10) (by omega) h
        omega

/-- What may stand behind a number: neither a digit nor the start of a fraction or an exponent. -/
def EndsNumber (rest : Text) : Prop :=
  ∀ c ∈ rest.head?, isDigit c = false ∧ c ≠ 0x2E ∧ c ≠ 0x65 ∧ c ≠ 0x45

/-- The digits of a number are taken to its end. -/
theorem takeWhile_ofNat {rest : Text} (h : EndsNumber rest) (n : Nat) :
    (Text.ofNat n ++ rest).takeWhile isDigit = Text.ofNat n := by
  rw [List.takeWhile_append_of_pos fun c hc => isDigit_of_mem_ofNat hc]
  cases rest with
  | nil => simp
  | cons c rest => simp [(h c rfl).1]

/-- Behind the digits of a number the rest is left. -/
theorem dropWhile_ofNat {rest : Text} (h : EndsNumber rest) (n : Nat) :
    (Text.ofNat n ++ rest).dropWhile isDigit = rest := by
  rw [List.dropWhile_append_of_pos fun c hc => isDigit_of_mem_ofNat hc]
  cases rest with
  | nil => simp
  | cons c rest => simp [(h c rfl).1]

/-- The digits of a number are its whole part. -/
theorem wholePart?_ofNat {rest : Text} (h : EndsNumber rest) (n : Nat) :
    wholePart? (Text.ofNat n ++ rest) = some (Text.ofNat n, rest) := by
  unfold wholePart?
  split
  · rename_i more heq
    -- a zero in front means that the number is zero
    have hhead : (Text.ofNat n).head? = some 0x30 := by
      rw [← head?_ofNat_append n rest, heq, List.head?_cons]
    have hzero := eq_zero_of_head?_ofNat hhead
    subst hzero
    cases heq
    cases rest with
    | nil => rfl
    | cons c rest => simp [(h c rfl).1]; rfl
  · rw [digits?, takeWhile_ofNat h, dropWhile_ofNat h]
    simp [ofNat_ne_nil]

/-- Where a number ends there is no fraction. -/
theorem fraction?_of_ends {rest : Text} (h : EndsNumber rest) :
    fraction? rest = some ([], rest) := by
  unfold fraction?
  split
  · exact absurd rfl (h _ rfl).2.1
  · rfl

/-- Where a number ends there is no exponent. -/
theorem exponent?_of_ends {rest : Text} (h : EndsNumber rest) :
    exponent? rest = some (none, rest) := by
  cases rest with
  | nil => rfl
  | cons c rest =>
      obtain ⟨_, _, hsmall, hlarge⟩ := h c rfl
      simp [exponent?, hsmall, hlarge]

/-- The number behind its sign is read back. -/
theorem numberRest?_ofNat (negative : Bool) {n : Nat} {m : Int}
    (hm : (if negative then -(n : Int) else n) = m) (hfits : fitsWord m = true) {rest : Text}
    (h : EndsNumber rest) :
    (do
      let (whole, rest) ← wholePart? (Text.ofNat n ++ rest)
      let (fraction, rest) ← fraction? rest
      let (exponent, rest) ← exponent? rest
      let value ← numberValue? negative whole fraction exponent
      return (value, rest)) = some (Datum.integer m, rest) := by
  rw [wholePart?_ofNat h]
  simp only [Option.bind_eq_bind, Option.bind_some, fraction?_of_ends h, exponent?_of_ends h,
    numberValue?, digitsValue_ofNat, hm, List.isEmpty_nil, Option.isNone_none, Bool.true_and, hfits,
    if_true, Option.pure_def]

theorem ofNat_append_ne_minus (n : Nat) (rest more : Text) :
    Text.ofNat n ++ rest ≠ 0x2D :: more := by
  intro heq
  have hhead : (Text.ofNat n).head? = some 0x2D := by
    rw [← head?_ofNat_append n rest, heq, List.head?_cons]
  have hdigit := isDigit_of_mem_ofNat (List.mem_of_mem_head? hhead)
  exact absurd hdigit (by decide)

/-- An integer is read back, and what stands behind it is left. -/
theorem number?_ofInt {n : Int} (hfits : fitsWord n = true) {rest : Text} (h : EndsNumber rest) :
    number? (Text.ofInt n ++ rest) = some (.integer n, rest) := by
  cases n with
  | ofNat n =>
      rw [Text.ofInt, number?.eq_def]
      split
      rename_i negative digits heq
      split at heq
      · rename_i more hminus
        exact absurd hminus (ofNat_append_ne_minus n rest more)
      · cases heq
        exact numberRest?_ofNat false rfl hfits h
  | negSucc n =>
      rw [Text.ofInt, List.cons_append, number?.eq_def]
      exact numberRest?_ofNat true (Int.negSucc_eq n).symm hfits h

end Json

end StoryCatalog

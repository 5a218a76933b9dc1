import Mathlib.Algebra.Ring.Int.Defs
import Mathlib.Algebra.Ring.Nat
import StoryCatalog.Proofs.Json.Scalar

/-!
# Numbers in decimal

The digits of a number tell the number, and what stands behind a number that a separator ends can be
told from it (`ofInt_append_inj`). A larger number has no fewer digits, and the next number has one
more exactly when it is a power of ten (`length_ofInt_lt_succ_iff`).
-/

namespace StoryCatalog

namespace Text

/-- No two natural numbers are written alike. -/
theorem ofNat_injective : Function.Injective ofNat := by
  intro m n h
  rw [← Json.digitsValue_ofNat m, h, Json.digitsValue_ofNat]

/-- An integer is written with digits, and a minus sign when it is negative. -/
theorem isDigit_of_mem_ofInt {n : Int} {c : CodePoint} (h : c ∈ ofInt n) :
    Json.isDigit c = true ∨ c = 0x2D := by
  cases n with
  | ofNat n => exact .inl (Json.isDigit_of_mem_ofNat h)
  | negSucc n =>
      rw [ofInt, List.mem_cons] at h
      rcases h with rfl | h
      · exact .inr (by decide)
      · exact .inl (Json.isDigit_of_mem_ofNat h)

/-- A written integer holds digits and the minus sign alone. -/
theorem not_mem_ofInt {c : CodePoint} (hdigit : Json.isDigit c = false) (hminus : c ≠ 0x2D)
    (n : Int) : c ∉ ofInt n := by
  intro h
  rcases isDigit_of_mem_ofInt h with h | h
  · rw [hdigit] at h
    cases h
  · exact hminus h

/-- No two integers are written alike. -/
theorem ofInt_injective : Function.Injective ofInt := by
  intro m n h
  have hsign : ∀ a b : Nat, ofNat a ≠ CodePoint.ofChar '-' :: ofNat b := by
    intro a b heq
    have hmem : CodePoint.ofChar '-' ∈ ofNat a := by simp [heq]
    exact absurd (Json.isDigit_of_mem_ofNat hmem) (by decide)
  cases m with
  | ofNat m =>
      cases n with
      | ofNat n => rw [ofNat_injective h]
      | negSucc n => exact absurd h (hsign m (n + 1))
  | negSucc m =>
      cases n with
      | ofNat n => exact absurd h.symm (hsign n (m + 1))
      | negSucc n =>
          have hdigits := ofNat_injective (List.cons.inj h).2
          rw [Nat.succ.inj hdigits]

/-- What stands before the first separator can be told from what stands behind it. -/
theorem append_cons_inj {separator : CodePoint} {first second rest more : Text}
    (hfirst : separator ∉ first) (hsecond : separator ∉ second)
    (h : first ++ separator :: rest = second ++ separator :: more) :
    first = second ∧ rest = more := by
  induction first generalizing second with
  | nil =>
      cases second with
      | nil => exact ⟨rfl, (List.cons.inj h).2⟩
      | cons c second => exact absurd (by simp [(List.cons.inj h).1]) hsecond
  | cons c first ih =>
      cases second with
      | nil => exact absurd (by simp [(List.cons.inj h).1]) hfirst
      | cons d second =>
          obtain ⟨rfl, htail⟩ := List.cons.inj h
          obtain ⟨rfl, hrest⟩ := ih (List.not_mem_of_not_mem_cons hfirst)
            (List.not_mem_of_not_mem_cons hsecond) htail
          exact ⟨rfl, hrest⟩

/-- Two integers are equal, and so is what follows them, when a separator follows each of them. -/
theorem ofInt_append_inj {separator : CodePoint} (hdigit : Json.isDigit separator = false)
    (hminus : separator ≠ 0x2D) {m n : Int} {rest more : Text}
    (h : ofInt m ++ separator :: rest = ofInt n ++ separator :: more) : m = n ∧ rest = more := by
  obtain ⟨hnumber, hrest⟩ := append_cons_inj (not_mem_ofInt hdigit hminus m)
    (not_mem_ofInt hdigit hminus n) h
  exact ⟨ofInt_injective hnumber, hrest⟩

/-! ## How many digits there are -/

/-- A number fits into `k` digits exactly when it is below the `k`-th power of ten. -/
theorem length_ofNat_le_iff {n k : Nat} (hk : 0 < k) : (ofNat n).length ≤ k ↔ n < 10 ^ k := by
  rw [ofNat, List.length_map, Nat.length_toDigits_le_iff (by decide) hk]

theorem length_ofNat_pos (n : Nat) : 0 < (ofNat n).length :=
  List.length_pos_iff.mpr (Json.ofNat_ne_nil n)

/-- A larger number is written with at least as many digits. -/
theorem length_ofNat_mono {m n : Nat} (h : m ≤ n) : (ofNat m).length ≤ (ofNat n).length := by
  rw [length_ofNat_le_iff (length_ofNat_pos n)]
  exact Nat.lt_of_le_of_lt h ((length_ofNat_le_iff (length_ofNat_pos n)).mp (Nat.le_refl _))

/-- The first number with that many digits is at most the number. -/
theorem ten_pow_le {n : Nat} (hn : 0 < n) : 10 ^ ((ofNat n).length - 1) ≤ n := by
  by_cases hone : (ofNat n).length = 1
  · rw [hone]
    exact hn
  · have hlength := length_ofNat_pos n
    have hnot : ¬ (ofNat n).length ≤ (ofNat n).length - 1 := by omega
    rw [length_ofNat_le_iff (by omega)] at hnot
    exact Nat.le_of_not_lt hnot

/-- The next number has one digit more exactly when it is a power of ten. -/
theorem length_ofNat_lt_succ_iff {n : Nat} (hn : 0 < n) :
    (ofNat n).length < (ofNat (n + 1)).length ↔ ∃ k, n + 1 = 10 ^ k := by
  have hlength := length_ofNat_pos n
  have hbelow : n < 10 ^ (ofNat n).length := (length_ofNat_le_iff hlength).mp (Nat.le_refl _)
  rw [← Nat.not_le, length_ofNat_le_iff hlength]
  constructor
  · intro h
    exact ⟨(ofNat n).length, by omega⟩
  · rintro ⟨k, hk⟩ hlt
    -- the power would lie strictly between two neighbouring powers
    have habove : 10 ^ ((ofNat n).length - 1) < 10 ^ k := by
      have := ten_pow_le hn
      omega
    rw [hk] at hlt
    have hlow := (Nat.pow_lt_pow_iff_right (by decide)).mp habove
    have hhigh := (Nat.pow_lt_pow_iff_right (by decide)).mp hlt
    omega

/-- The next number has at most one digit more. -/
theorem length_ofNat_succ_le (n : Nat) : (ofNat (n + 1)).length ≤ (ofNat n).length + 1 := by
  have hbelow : n < 10 ^ (ofNat n).length :=
    (length_ofNat_le_iff (length_ofNat_pos n)).mp (Nat.le_refl _)
  rw [length_ofNat_le_iff (Nat.succ_pos _), Nat.pow_succ]
  omega

/-! ## How long an integer is in writing -/

theorem length_ofInt_pos (n : Int) : 0 < (ofInt n).length := by
  cases n with
  | ofNat n => exact length_ofNat_pos n
  | negSucc n => exact Nat.succ_pos _

theorem length_ofInt_mono {m n : Int} (hm : 0 ≤ m) (h : m ≤ n) :
    (ofInt m).length ≤ (ofInt n).length := by
  obtain ⟨m, rfl⟩ := Int.eq_ofNat_of_zero_le hm
  obtain ⟨n, rfl⟩ := Int.eq_ofNat_of_zero_le (Int.le_trans hm h)
  exact length_ofNat_mono (Int.ofNat_le.mp h)

/-- One more takes one more digit exactly when it is a power of ten. -/
theorem length_ofInt_lt_succ_iff {n : Int} (hn : 0 < n) :
    (ofInt n).length < (ofInt (n + 1)).length ↔ ∃ k : Nat, n + 1 = 10 ^ k := by
  obtain ⟨n, rfl⟩ := Int.eq_ofNat_of_zero_le (Int.le_of_lt hn)
  have hpowers : (∃ k : Nat, (n : Int) + 1 = 10 ^ k) ↔ ∃ k, n + 1 = 10 ^ k := by
    constructor
    · rintro ⟨k, hk⟩
      exact ⟨k, by exact_mod_cast hk⟩
    · rintro ⟨k, hk⟩
      exact ⟨k, by exact_mod_cast hk⟩
  rw [hpowers, ← length_ofNat_lt_succ_iff (Int.ofNat_lt.mp hn)]
  rfl

/-- One more never takes two more digits. -/
theorem length_ofInt_succ_le {n : Int} (hn : 0 ≤ n) :
    (ofInt (n + 1)).length ≤ (ofInt n).length + 1 := by
  obtain ⟨n, rfl⟩ := Int.eq_ofNat_of_zero_le hn
  exact length_ofNat_succ_le n

end Text

end StoryCatalog

import StoryCatalog.Proofs.Text.Utf8

/-!
# Where a text stands among bytes

The first byte of a code point continues no sequence, and its other bytes do. So the bytes of a text
that is not empty can stand within the bytes of another text only where the text itself stands in
the other one (`exists_eq_append_of_utf8`): a search among bytes finds nothing that begins or ends
inside a character.
-/

namespace StoryCatalog

namespace CodePoint

/-- The bytes of a code point are a lead, which continues no sequence, and bytes that do. -/
theorem exists_utf8_eq_cons (c : CodePoint) :
    ∃ lead tail, c.utf8 = lead :: tail ∧ Utf8.isContinuation lead = false ∧
      ∀ b ∈ tail, Utf8.isContinuation b = true := by
  have hlt := c.isLt
  have hlead : ∀ n < 256, n < 0x80 ∨ 0xC0 ≤ n → Utf8.isContinuation (UInt8.ofNat n) = false := by
    intro n hn hrange
    simp only [Utf8.isContinuation, Utf8.toNat_ofNat hn, Bool.and_eq_false_iff,
      decide_eq_false_iff_not]
    omega
  have htail : ∀ n, Utf8.isContinuation (UInt8.ofNat (0x80 + n % 0x40)) = true :=
    fun n => Utf8.isContinuation_ofNat (Nat.mod_lt _ (by decide))
  have hnil : ∀ b ∈ ([] : Bytes), Utf8.isContinuation b = true := by simp
  unfold utf8
  split
  · exact ⟨_, _, rfl, hlead _ (by omega) (by omega), hnil⟩
  split
  · refine ⟨_, _, rfl, hlead _ (by omega) (by omega), ?_⟩
    simpa only [List.forall_mem_cons, htail, true_and]
  split
  · refine ⟨_, _, rfl, hlead _ (by omega) (by omega), ?_⟩
    simpa only [List.forall_mem_cons, htail, true_and]
  · refine ⟨_, _, rfl, hlead _ (by omega) (by omega), ?_⟩
    simpa only [List.forall_mem_cons, htail, true_and]

/-- The bytes of a code point tell which one it is and where they end. -/
theorem utf8_append_inj {c d : CodePoint} {x y : Bytes} (h : c.utf8 ++ x = d.utf8 ++ y) :
    c = d ∧ x = y := by
  have hc := c.isLt
  have hd := d.isLt
  have hval : c.val = d.val := by
    -- the four lengths on either side: the leads differ unless the lengths agree
    unfold utf8 at h
    repeat' split at h
    all_goals
      simp only [List.cons_append, List.nil_append, List.cons.injEq, ← UInt8.toNat_inj,
        UInt8.toNat_ofNat'] at h
      omega
  obtain rfl := Fin.ext hval
  exact ⟨rfl, List.append_cancel_left h⟩

end CodePoint

namespace Text

/-- A text whose bytes come first in the bytes of another one comes first in it. -/
theorem exists_eq_append_of_utf8_append {t name : Text} {y : Bytes}
    (h : t.utf8 = name.utf8 ++ y) : ∃ after, t = name ++ after := by
  induction name generalizing t with
  | nil => exact ⟨t, rfl⟩
  | cons c name ih =>
      rw [utf8_cons, List.append_assoc] at h
      cases t with
      | nil =>
          obtain ⟨lead, tail, hutf8, _⟩ := c.exists_utf8_eq_cons
          rw [hutf8] at h
          cases h
      | cons d t =>
          rw [utf8_cons] at h
          obtain ⟨rfl, hrest⟩ := CodePoint.utf8_append_inj h
          obtain ⟨after, rfl⟩ := ih hrest
          exact ⟨after, rfl⟩

/-- Before a byte that continues no sequence stand the bytes of whole characters. -/
theorem exists_eq_append_of_not_isContinuation {t : Text} {x rest : Bytes} {lead : UInt8}
    (h : t.utf8 = x ++ lead :: rest) (hlead : Utf8.isContinuation lead = false) :
    ∃ before after, t = before ++ after ∧ before.utf8 = x ∧ after.utf8 = lead :: rest := by
  induction t generalizing x with
  | nil => cases x <;> cases h
  | cons c t ih =>
      obtain ⟨first, tail, hutf8, _, htail⟩ := c.exists_utf8_eq_cons
      rw [utf8_cons] at h
      rcases List.append_eq_append_iff.mp h with ⟨x', rfl, hrest⟩ | ⟨part, hc, hpart⟩
      · obtain ⟨before, after, rfl, rfl, hafter⟩ := ih hrest
        exact ⟨c :: before, after, rfl, utf8_cons c before, hafter⟩
      · cases x with
        | nil => exact ⟨[], c :: t, rfl, rfl, by rw [utf8_cons, h, List.nil_append]⟩
        | cons b x =>
            -- the byte cannot be a later one of the character that it would stand in
            rw [hutf8, List.cons_append, List.cons.injEq] at hc
            cases part with
            | nil =>
                refine ⟨[c], t, rfl, ?_, hpart.symm⟩
                rw [utf8_cons, utf8_nil, List.append_nil, hutf8, hc.1, hc.2, List.append_nil]
            | cons _ part =>
                obtain ⟨rfl, _⟩ := List.cons.inj hpart
                rw [htail lead (by simp [hc.2])] at hlead
                cases hlead

/-- The bytes of a text that is not empty stand in the bytes of another one only where the text
stands in it. -/
theorem exists_eq_append_of_utf8 {t name : Text} (hname : name ≠ []) {x y : Bytes}
    (h : t.utf8 = x ++ name.utf8 ++ y) :
    ∃ before after, t = before ++ name ++ after ∧ before.utf8 = x := by
  obtain ⟨c, more, rfl⟩ := List.exists_cons_of_ne_nil hname
  obtain ⟨lead, tail, hutf8, hlead, _⟩ := c.exists_utf8_eq_cons
  have hbytes : t.utf8 = x ++ lead :: (tail ++ (Text.utf8 more ++ y)) := by
    rw [h, utf8_cons, hutf8]
    simp
  obtain ⟨before, rest, rfl, rfl, hrest⟩ := exists_eq_append_of_not_isContinuation hbytes hlead
  obtain ⟨after, rfl⟩ : ∃ after, rest = (c :: more) ++ after := by
    refine exists_eq_append_of_utf8_append (y := y) ?_
    rw [hrest, utf8_cons, hutf8]
    simp
  exact ⟨before, after, by rw [List.append_assoc], rfl⟩

end Text

end StoryCatalog

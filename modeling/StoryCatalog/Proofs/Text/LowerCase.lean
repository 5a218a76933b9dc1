import Mathlib.Tactic.Common
import StoryCatalog.Text.LowerCase

/-!
# A lower-case form has no other one

The runs of the case mapping lead outside all runs (`CaseRun.settles_of_mem`), so each character of
a lower-case form stands for itself, and taking the lower-case form twice is taking it once
(`Text.toLower_toLower`). No capital sigma is left either, so the rule that looks beyond one
character finds nothing to do the second time.
-/

namespace StoryCatalog

namespace CaseRun

variable {run other : CaseRun}

/-- The lower-case forms of a run lie outside another one: before it, behind it, or between its
steps. -/
def misses (run other : CaseRun) : Bool :=
  let first := (run.first + run.shift).toNat
  let last := (run.last + run.shift).toNat
  Nat.blt last other.first || Nat.blt other.last first ||
    (other.step == 2 && (run.step == 2 || run.first == run.last) && (first + other.first) % 2 == 1)

/-- The one code point whose lower-case form is two, as a run of its own. -/
def dotted : CaseRun := ⟨0x130, 0x130, 1, 0⟩

/-- The lower-case forms of a run are code points that have no other lower-case form. -/
def settles (run : CaseRun) : Bool :=
  decide (0 ≤ run.first + run.shift) && decide (run.last + run.shift < 0x110000) &&
    (dotted :: lowerCaseRuns.toList).all run.misses

/-- No run of the table maps a letter onto one that the table would map again. -/
theorem settles_of_mem (hrun : run ∈ lowerCaseRuns.toList) : run.settles = true := by
  have hall : lowerCaseRuns.toList.all settles = true := by decide +kernel
  exact List.all_eq_true.mp hall run hrun

/-- The check of a run in terms of the range it maps to and of the runs that range misses. -/
theorem settles_iff :
    run.settles = true ↔
      0 ≤ run.first + run.shift ∧ run.last + run.shift < 0x110000 ∧
        ∀ other ∈ dotted :: lowerCaseRuns.toList, run.misses other = true := by
  rw [settles, Bool.and_eq_true, Bool.and_eq_true, decide_eq_true_eq, decide_eq_true_eq,
    List.all_eq_true, and_assoc]

end CaseRun

namespace CodePoint

variable {c d : CodePoint} {run other : CaseRun}

/-- A run holds every character between its ends that its step reaches. -/
theorem inCaseRun_iff :
    c.inCaseRun run = true ↔
      run.first ≤ c.val ∧ c.val ≤ run.last ∧ (c.val - run.first) % run.step = 0 := by
  simp [inCaseRun, and_assoc]

/-- A run whose letters are mapped past another leaves none of them in the other. -/
theorem inCaseRun_eq_false_of_misses (hmisses : run.misses other = true)
    (hbound : 0 ≤ run.first + run.shift) (hc : c.inCaseRun run = true)
    (hd : (d.val : Int) = c.val + run.shift) : d.inCaseRun other = false := by
  rw [Bool.eq_false_iff]
  intro hin
  obtain ⟨hfirst, hlast, hstep⟩ := inCaseRun_iff.mp hc
  obtain ⟨hfirst', hlast', hstep'⟩ := inCaseRun_iff.mp hin
  simp only [CaseRun.misses, Bool.or_eq_true, Bool.and_eq_true, Nat.blt_eq, beq_iff_eq] at hmisses
  rcases hmisses with (hbefore | hbehind) | ⟨⟨htwo, hsteps⟩, hodd⟩
  · omega
  · omega
  · rw [htwo] at hstep'
    rcases hsteps with htwo | hsingle
    · rw [htwo] at hstep
      omega
    · omega

/-- The character is its own lower-case form. -/
def IsSmall (c : CodePoint) : Prop :=
  c.toLower = [c]

/-- A character outside every run of the table is its own lower case. -/
theorem isSmall_of_runs (hdotted : c.inCaseRun .dotted = false)
    (hruns : ∀ run ∈ lowerCaseRuns.toList, c.inCaseRun run = false) : IsSmall c := by
  unfold IsSmall toLower
  have hascii := hruns ⟨0x41, 0x5a, 1, 32⟩ (List.mem_of_mem_head? rfl)
  have hfind : lowerCaseRuns.find? c.inCaseRun = none := by
    rw [← Array.find?_toList, List.find?_eq_none]
    intro run hrun
    rw [hruns run hrun]
    simp
  rw [← Bool.not_eq_true, inCaseRun_iff] at hdotted hascii
  dsimp only [CaseRun.dotted] at hdotted hascii
  have hcapital : ¬(decide (0x41 ≤ c.val) && decide (c.val ≤ 0x5A)) = true := by
    rw [Bool.and_eq_true, decide_eq_true_eq, decide_eq_true_eq]
    omega
  have hother : ¬(c.val == 0x130) = true := by
    rw [beq_iff_eq]
    omega
  rw [if_neg hcapital, if_neg hother, hfind]
  split
  · rfl
  · rfl

/-- What a settled run maps a letter to is its own lower case. -/
theorem isSmall_of_settles (hrun : run.settles = true) (hc : c.inCaseRun run = true)
    (hd : (d.val : Int) = c.val + run.shift) : IsSmall d := by
  obtain ⟨hbound, -, hmisses⟩ := CaseRun.settles_iff.mp hrun
  have hout : ∀ other ∈ CaseRun.dotted :: lowerCaseRuns.toList, d.inCaseRun other = false :=
    fun other hother => inCaseRun_eq_false_of_misses (hmisses other hother) hbound hc hd
  exact isSmall_of_runs (hout _ List.mem_cons_self)
    fun other hother => hout other (List.mem_cons_of_mem _ hother)

/-- A code point that is settled as a run of its own, without any shift, is small. -/
theorem isSmall_of_single (h : CaseRun.settles ⟨c.val, c.val, 1, 0⟩ = true) : IsSmall c :=
  isSmall_of_settles h (inCaseRun_iff.mpr ⟨Nat.le_refl _, Nat.le_refl _, Nat.mod_one _⟩)
    (Int.add_zero _).symm

theorem isSmall_finalSigma : IsSmall 0x3C2 :=
  isSmall_of_single (by decide +kernel)

theorem isSmall_sigma : IsSmall 0x3C3 :=
  isSmall_of_single (by decide +kernel)

theorem IsSmall.ne_sigma (h : IsSmall c) : c ≠ 0x3A3 := by
  rintro rfl
  have hform : toLower 0x3A3 = [0x3C3] := by decide +kernel
  cases hform.symm.trans h

/-- A character is small, or the one with two characters for its lower-case form, or in a run. -/
theorem toLower_cases (c : CodePoint) :
    c.IsSmall ∨ c.toLower = [0x69, 0x307] ∨
      ∃ run ∈ lowerCaseRuns.toList, c.inCaseRun run = true ∧
        ∃ d : CodePoint, (d.val : Int) = c.val + run.shift ∧ c.toLower = [d] := by
  unfold IsSmall toLower
  split
  · split
    · rename_i hcapital
      rw [Bool.and_eq_true, decide_eq_true_eq, decide_eq_true_eq] at hcapital
      refine .inr (.inr ⟨⟨0x41, 0x5a, 1, 32⟩, List.mem_of_mem_head? rfl,
        inCaseRun_iff.mpr ⟨hcapital.1, hcapital.2, Nat.mod_one _⟩, c + 0x20, ?_, rfl⟩)
      have hsum : (c + 0x20).val = (c.val + 0x20) % 0x110000 := Fin.val_add c 0x20
      show ((c + 0x20).val : Int) = c.val + 32
      omega
    · exact .inl rfl
  · split
    · exact .inr (.inl rfl)
    · cases hfind : lowerCaseRuns.find? c.inCaseRun with
      | none => exact .inl rfl
      | some run =>
          rw [← Array.find?_toList] at hfind
          have hrun := List.mem_of_find?_eq_some hfind
          have hin := List.find?_some hfind
          refine .inr (.inr ⟨run, hrun, hin, _, ?_, rfl⟩)
          obtain ⟨hlow, hhigh, -⟩ := CaseRun.settles_iff.mp (CaseRun.settles_of_mem hrun)
          obtain ⟨hfirst, hlast, -⟩ := inCaseRun_iff.mp hin
          have hmod : (Fin.ofNat 0x110000 (c.val + run.shift).toNat).val =
              (c.val + run.shift).toNat % 0x110000 := rfl
          omega

/-- Each character of a lower-case form is its own. -/
theorem isSmall_of_mem_toLower (h : d ∈ c.toLower) : IsSmall d := by
  rcases toLower_cases c with hsmall | htwo | ⟨run, hrun, hin, e, he, hform⟩
  · rw [hsmall] at h
    cases List.mem_singleton.mp h
    exact hsmall
  · rw [htwo, List.mem_cons, List.mem_singleton] at h
    rcases h with rfl | rfl
    · exact isSmall_of_single (by decide +kernel)
    · exact isSmall_of_single (by decide +kernel)
  · rw [hform] at h
    cases List.mem_singleton.mp h
    exact isSmall_of_settles (CaseRun.settles_of_mem hrun) hin he

end CodePoint

namespace Text

variable {t before : Text}

/-- The lower-case form is all of small characters, a capital sigma in whatever place. -/
theorem isSmall_of_mem_lowerAfter {d : CodePoint} (h : d ∈ lowerAfter before t) : d.IsSmall := by
  induction t generalizing before with
  | nil => cases h
  | cons c rest ih =>
      rw [lowerAfter] at h
      rcases List.mem_append.mp h with hform | hrest
      · split at hform
        · split at hform
          · cases List.mem_singleton.mp hform
            exact CodePoint.isSmall_finalSigma
          · cases List.mem_singleton.mp hform
            exact CodePoint.isSmall_sigma
        · exact CodePoint.isSmall_of_mem_toLower hform
      · exact ih hrest

/-- A text of characters in lower case is left as it is, whatever stands before it. -/
theorem lowerAfter_of_isSmall (h : ∀ c ∈ t, CodePoint.IsSmall c) : lowerAfter before t = t := by
  induction t generalizing before with
  | nil => rfl
  | cons c rest ih =>
      have hc := h c List.mem_cons_self
      rw [lowerAfter, if_neg hc.ne_sigma, ih fun d hd => h d (List.mem_cons_of_mem c hd)]
      exact congrArg (· ++ rest) hc

/-- The lower-case form of a lower-case form is itself. -/
theorem toLower_toLower (t : Text) : toLower (toLower t) = toLower t :=
  lowerAfter_of_isSmall fun _ => isSmall_of_mem_lowerAfter

end Text

end StoryCatalog

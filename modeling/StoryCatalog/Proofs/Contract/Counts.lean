import Mathlib.Algebra.BigOperators.Group.List.Basic
import Mathlib.Algebra.Ring.Int.Defs
import Mathlib.Data.List.Induction
import Mathlib.Data.List.Nodup
import StoryCatalog.Contract.Validation
import StoryCatalog.Proofs.Pointwise
import StoryCatalog.Proofs.Text.Order

/-!
# Counting kinds

The counts of kinds stand in strictly ascending order (`ascending_kindCounts`), so no kind occurs
twice in them. Every kind that occurs is counted, with the number of times that it occurs
(`mem_kindCounts`), and together the counts are the number of all (`sum_kindCounts`). Counts that
have the same entries in another order are the same counts (`sameCounts_of_perm`), and no others are
(`sameCounts_iff`).
-/

namespace StoryCatalog

/-- The names of counts stand in strictly ascending order. -/
def Ascending (counts : List (Text × Int)) : Prop :=
  (counts.map Prod.fst).Pairwise Text.Before

theorem Ascending.nodup {counts : List (Text × Int)} (h : Ascending counts) :
    (counts.map Prod.fst).Nodup :=
  List.Pairwise.imp And.right h

/-- Counting a kind names no kind but this one anew. -/
theorem mem_map_countKind {kind name : Text} {counts : List (Text × Int)}
    (h : name ∈ (countKind kind counts).map Prod.fst) :
    name = kind ∨ name ∈ counts.map Prod.fst := by
  induction counts with
  | nil => exact .inl (by simpa [countKind] using h)
  | cons first rest ih =>
      obtain ⟨other, count⟩ := first
      unfold countKind at h
      split at h
      · exact .inr h
      · split at h
        · exact List.mem_cons.mp h
        · rw [List.map_cons, List.mem_cons] at h ⊢
          rcases h with h | h
          · exact .inr (.inl h)
          · exact (ih h).imp_right .inr

/-- Counting one more of a kind keeps the order. -/
theorem Ascending.countKind {counts : List (Text × Int)} (h : Ascending counts) (kind : Text) :
    Ascending (countKind kind counts) := by
  induction counts with
  | nil => exact List.pairwise_singleton _ _
  | cons first rest ih =>
      obtain ⟨other, count⟩ := first
      have hcons := List.pairwise_cons.mp h
      unfold StoryCatalog.countKind
      split
      · exact h
      · rename_i hne
        rw [beq_iff_eq] at hne
        split
        · rename_i hle
          have hbefore : kind.Before other := ⟨hle, hne⟩
          refine List.pairwise_cons.mpr ⟨?_, h⟩
          intro name hname
          rcases List.mem_cons.mp hname with rfl | hname
          · exact hbefore
          · exact hbefore.trans (hcons.1 name hname)
        · rename_i hle
          have hbefore : Text.Before other kind :=
            ⟨(Text.le_total kind other).resolve_left hle, Ne.symm hne⟩
          refine List.pairwise_cons.mpr ⟨?_, ih hcons.2⟩
          intro name hname
          rcases mem_map_countKind hname with rfl | hname
          · exact hbefore
          · exact hcons.1 name hname

/-- The kinds of a summary are in ascending order. -/
theorem ascending_kindCounts (kinds : List Text) : Ascending (kindCounts kinds) := by
  -- the fold starts from no counts, but the induction needs it from any counts in order
  have hfold : ∀ (counts : List (Text × Int)), Ascending counts →
      Ascending (kinds.foldl (fun counts kind => countKind kind counts) counts) := by
    induction kinds with
    | nil => exact fun _ h => h
    | cons kind rest ih => exact fun counts h => ih _ (h.countKind kind)
  exact hfold [] List.Pairwise.nil

/-! ## How often each kind is counted -/

/-- One more kind at the end is one more kind counted. -/
theorem kindCounts_concat (kinds : List Text) (kind : Text) :
    kindCounts (kinds ++ [kind]) = countKind kind (kindCounts kinds) := by
  rw [kindCounts, List.foldl_append]
  rfl

theorem Ascending.lookup_eq_none {kind other : Text} {count : Int} {rest : List (Text × Int)}
    (h : Ascending ((other, count) :: rest)) (hbefore : kind.Before other) :
    ((other, count) :: rest).lookup kind = none := by
  rw [List.lookup_eq_none_iff]
  intro entry hentry
  rw [bne_iff_ne]
  rcases List.mem_cons.mp hentry with rfl | hrest
  · exact hbefore.2
  · exact (hbefore.trans ((List.pairwise_cons.mp h).1 _ (List.mem_map_of_mem hrest))).2

/-- Counting one more of a kind changes its own count and no other. -/
theorem lookup_countKind {counts : List (Text × Int)} (h : Ascending counts) (kind name : Text) :
    (countKind kind counts).lookup name =
      if name = kind then some ((counts.lookup kind).getD 0 + 1) else counts.lookup name := by
  induction counts with
  | nil =>
      rw [countKind, List.lookup_cons]
      by_cases hname : name = kind
      · simp [hname]
      · simp [hname, beq_false_of_ne hname]
  | cons first rest ih =>
      obtain ⟨other, count⟩ := first
      unfold countKind
      split
      · rename_i heq
        rw [beq_iff_eq] at heq
        subst heq
        by_cases hname : name = kind
        · simp [hname]
        · simp [List.lookup_cons, hname, beq_false_of_ne hname]
      · rename_i hne
        rw [beq_iff_eq] at hne
        split
        · rename_i hle
          -- the kind comes before all others, so it has not been counted yet
          rw [h.lookup_eq_none ⟨hle, hne⟩, List.lookup_cons]
          by_cases hname : name = kind
          · simp [hname]
          · simp [hname, beq_false_of_ne hname]
        · rw [List.lookup_cons, List.lookup_cons, List.lookup_cons, beq_false_of_ne hne,
            ih (List.pairwise_cons.mp h).2]
          by_cases hname : name = other
          · subst hname
            simp [Ne.symm hne]
          · simp [beq_false_of_ne hname]

/-- Each kind is counted as often as it occurs, and no other kind is named. -/
theorem lookup_kindCounts (kinds : List Text) (name : Text) :
    (kindCounts kinds).lookup name =
      if kinds.count name = 0 then none else some (kinds.count name : Int) := by
  induction kinds using List.reverseRec with
  | nil => rfl
  | append_singleton kinds kind ih =>
      rw [kindCounts_concat, lookup_countKind (ascending_kindCounts kinds), List.count_append]
      by_cases hname : name = kind
      · subst hname
        rw [if_pos rfl, ih, List.count_singleton_self, if_neg (Nat.succ_ne_zero _)]
        by_cases hcount : kinds.count name = 0
        · rw [if_pos hcount, hcount]
          rfl
        · rw [if_neg hcount]
          rfl
      · rw [if_neg hname, ih, List.count_singleton, beq_false_of_ne (Ne.symm hname)]
        rfl

/-- The counts are those of the kinds that occur. -/
theorem mem_kindCounts {kinds : List Text} {kind : Text} {count : Int} :
    (kind, count) ∈ kindCounts kinds ↔ kind ∈ kinds ∧ count = kinds.count kind := by
  rw [← lookup_eq_some_iff (ascending_kindCounts kinds).nodup, lookup_kindCounts,
    ← List.count_pos_iff]
  split
  · rename_i hcount
    simp [hcount]
  · rename_i hcount
    simp [Nat.pos_of_ne_zero hcount, eq_comm]

/-- Counting a kind raises the sum of the counts by one. -/
theorem sum_countKind (kind : Text) (counts : List (Text × Int)) :
    ((countKind kind counts).map Prod.snd).sum = (counts.map Prod.snd).sum + 1 := by
  induction counts with
  | nil => rfl
  | cons first rest ih =>
      unfold countKind
      split
      · simp only [List.map_cons, List.sum_cons]
        omega
      · split
        · simp only [List.map_cons, List.sum_cons]
          omega
        · simp only [List.map_cons, List.sum_cons, ih]
          omega

/-- Every kind is counted once each time it occurs. -/
theorem sum_kindCounts (kinds : List Text) :
    ((kindCounts kinds).map Prod.snd).sum = kinds.length := by
  induction kinds using List.reverseRec with
  | nil => rfl
  | append_singleton kinds kind ih =>
      rw [kindCounts_concat, sum_countKind, ih, List.length_append, List.length_singleton]
      rfl

/-- Counts of different names are the same in any order. -/
theorem Validation.sameCounts_of_perm {first second : List (Text × Int)} (h : first.Perm second)
    (hnodup : (second.map Prod.fst).Nodup) : sameCounts first second = true := by
  rw [sameCounts, Bool.and_eq_true, beq_iff_eq, List.all_eq_true]
  refine ⟨h.length_eq, ?_⟩
  rintro ⟨kind, count⟩ hmem
  rw [beq_iff_eq]
  exact lookup_eq_some_of_mem hnodup (h.mem_iff.mp hmem)

/-- Counts of different names are the same exactly when they have the same entries. -/
theorem Validation.sameCounts_iff {first second : List (Text × Int)}
    (hfirst : (first.map Prod.fst).Nodup) (hsecond : (second.map Prod.fst).Nodup) :
    sameCounts first second = true ↔
      ∀ kind count, (kind, count) ∈ first ↔ (kind, count) ∈ second := by
  constructor
  · intro h
    rw [sameCounts, Bool.and_eq_true, beq_iff_eq, List.all_eq_true] at h
    obtain ⟨hlength, hall⟩ := h
    have hsubset : first ⊆ second := by
      rintro ⟨kind, count⟩ hmem
      exact mem_of_lookup_eq_some (beq_iff_eq.mp (hall _ hmem))
    -- as many entries, all different: none of the second is left over
    have hperm : first.Perm second :=
      (List.subperm_of_subset (List.Nodup.of_map _ hfirst) hsubset).perm_of_length_le
        (Nat.le_of_eq hlength.symm)
    exact fun kind count => hperm.mem_iff
  · intro h
    refine sameCounts_of_perm ?_ hsecond
    rw [List.perm_ext_iff_of_nodup (List.Nodup.of_map _ hfirst) (List.Nodup.of_map _ hsecond)]
    exact fun entry => h entry.1 entry.2

end StoryCatalog

import Mathlib.Data.List.Nodup
import StoryCatalog.Disk.Path

/-!
# The order of texts and paths

Texts are in total order by their code points, and `Text.Before` is the strict part of it. A list in
strictly ascending order is known by its members (`Text.eq_of_ascending`). Names without slashes can
be told from the path that they are joined to (`joinNames_inj`).
-/

namespace StoryCatalog

namespace Text

/-- Two texts compare by their first characters, and only then by the others. -/
theorem le_cons_iff {c d : CodePoint} {t u : Text} :
    le (c :: t) (d :: u) = true ↔ c.val < d.val ∨ c = d ∧ le t u = true := by
  rw [le, Bool.or_eq_true, decide_eq_true_eq, Bool.and_eq_true, beq_iff_eq]

theorem le_total (t u : Text) : le t u = true ∨ le u t = true := by
  induction t generalizing u with
  | nil => exact .inl rfl
  | cons c rest ih =>
      cases u with
      | nil => exact .inr rfl
      | cons d more =>
          rw [le_cons_iff, le_cons_iff]
          rcases Nat.lt_trichotomy c.val d.val with hlt | heq | hgt
          · exact .inl (.inl hlt)
          · have heq : c = d := Fin.ext heq
            exact (ih more).imp (fun h => .inr ⟨heq, h⟩) fun h => .inr ⟨heq.symm, h⟩
          · exact .inr (.inl hgt)

theorem le_trans {t u v : Text} (htu : le t u = true) (huv : le u v = true) : le t v = true := by
  induction t generalizing u v with
  | nil => rfl
  | cons c rest ih =>
      cases u with
      | nil => cases htu
      | cons d more =>
          cases v with
          | nil => cases huv
          | cons e others =>
              rw [le_cons_iff] at htu huv ⊢
              rcases htu with hlt | ⟨rfl, htu⟩
              · rcases huv with hlt' | ⟨rfl, _⟩
                · exact .inl (Nat.lt_trans hlt hlt')
                · exact .inl hlt
              · rcases huv with hlt | ⟨rfl, huv⟩
                · exact .inl hlt
                · exact .inr ⟨rfl, ih htu huv⟩

theorem le_antisymm {t u : Text} (htu : le t u = true) (hut : le u t = true) : t = u := by
  induction t generalizing u with
  | nil =>
      cases u with
      | nil => rfl
      | cons d more => cases hut
  | cons c rest ih =>
      cases u with
      | nil => cases htu
      | cons d more =>
          rw [le_cons_iff] at htu hut
          rcases htu with hlt | ⟨rfl, htu⟩
          · rcases hut with hlt' | ⟨rfl, _⟩
            · omega
            · omega
          · rcases hut with hlt | ⟨_, hut⟩
            · omega
            · rw [ih htu hut]

/-- A text comes before another one. -/
def Before (t u : Text) : Prop :=
  le t u = true ∧ t ≠ u

theorem Before.trans {t u v : Text} (htu : t.Before u) (huv : u.Before v) : t.Before v := by
  refine ⟨le_trans htu.1 huv.1, ?_⟩
  rintro rfl
  exact htu.2 (le_antisymm htu.1 huv.1)

theorem Before.asymm {t u : Text} (htu : t.Before u) : ¬u.Before t :=
  fun hut => htu.2 (le_antisymm htu.1 hut.1)

section

variable {α : Type} {key : α → Text} {items others : List α}

/-- Items in strictly ascending order of a key hold none twice. -/
theorem nodup_of_ascending (h : (items.map key).Pairwise Before) : items.Nodup :=
  List.Nodup.of_map key (h.imp And.right)

/-- Two lists in strictly ascending order with the same members are equal. -/
theorem eq_of_ascending (h : (items.map key).Pairwise Before)
    (h' : (others.map key).Pairwise Before) (hmem : ∀ a, a ∈ items ↔ a ∈ others) :
    items = others := by
  have hperm : items.Perm others :=
    (List.perm_ext_iff_of_nodup (nodup_of_ascending h) (nodup_of_ascending h')).mpr hmem
  refine hperm.eq_of_pairwise ?_ (List.pairwise_map.mp h) (List.pairwise_map.mp h')
  exact fun a b _ _ hab hba => absurd hba hab.asymm

/-- Sorting items with different keys brings them into strictly ascending order. -/
theorem ascending_mergeSort (h : (items.map key).Nodup) :
    ((items.mergeSort fun a b => le (key a) (key b)).map key).Pairwise Before := by
  have htotal : ∀ a b, (le (key a) (key b) || le (key b) (key a)) = true := by
    intro a b
    rw [Bool.or_eq_true]
    exact le_total (key a) (key b)
  have hsorted : (items.mergeSort fun a b => le (key a) (key b)).Pairwise fun a b =>
      le (key a) (key b) = true :=
    List.pairwise_mergeSort (fun a b c => @le_trans (key a) (key b) (key c)) htotal items
  have hnodup : ((items.mergeSort fun a b => le (key a) (key b)).map key).Nodup :=
    ((List.mergeSort_perm items _).map key).nodup_iff.mpr h
  rw [List.pairwise_map]
  exact hsorted.and (List.pairwise_map.mp hnodup)

end

end Text

/-- Names without slashes make different paths. -/
theorem joinNames_inj {names others : List Name} (hne : names ≠ []) (hne' : others ≠ [])
    (h : ∀ name ∈ names, (0x2F : CodePoint) ∉ name)
    (h' : ∀ name ∈ others, (0x2F : CodePoint) ∉ name) (heq : joinNames names = joinNames others) :
    names = others := by
  have hsplit := congrArg (List.splitOn (0x2F : CodePoint)) heq
  rwa [joinNames, Text.join, List.splitOn_intercalate _ h hne, joinNames, Text.join,
    List.splitOn_intercalate _ h' hne'] at hsplit

end StoryCatalog

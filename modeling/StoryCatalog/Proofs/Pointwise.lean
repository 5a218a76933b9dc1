import Mathlib.Data.List.Forall2

/-!
# Lists related item by item

Facts about `List.Forall₂`, about running a computation that may fail over a list, and about looking
up entries by their keys, used for trees, data, disks and artifacts alike.
-/

namespace StoryCatalog

section

variable {α β γ ε : Type}

/-- A relation may be replaced by one that follows from it for the items at hand. -/
theorem forall₂_imp_of_mem {R S : α → β → Prop} {xs : List α} {ys : List β}
    (h : List.Forall₂ R xs ys) (himp : ∀ x ∈ xs, ∀ y ∈ ys, R x y → S x y) :
    List.Forall₂ S xs ys := by
  induction h with
  | nil => exact .nil
  | cons hR _ ih =>
      refine .cons (himp _ List.mem_cons_self _ List.mem_cons_self hR) (ih ?_)
      exact fun x hx y hy => himp x (List.mem_cons_of_mem _ hx) y (List.mem_cons_of_mem _ hy)

/-- Of two lists related one for one, every element of the first has its partner. -/
theorem exists_of_forall₂_of_mem {R : α → β → Prop} {xs : List α} {ys : List β}
    (h : List.Forall₂ R xs ys) {x : α} (hx : x ∈ xs) : ∃ y ∈ ys, R x y := by
  induction h with
  | nil => simp at hx
  | cons hR _ ih =>
      rcases List.mem_cons.mp hx with rfl | hx
      · exact ⟨_, List.mem_cons_self, hR⟩
      · obtain ⟨y, hy, hR⟩ := ih hx
        exact ⟨y, List.mem_cons_of_mem _ hy, hR⟩

theorem eq_map_of_forall₂ {f : α → β} {xs : List α} {ys : List β}
    (h : List.Forall₂ (fun x y => f x = y) xs ys) : ys = xs.map f := by
  induction h with
  | nil => rfl
  | cons h _ ih => rw [List.map_cons, h, ih]

theorem rel_of_imp {P Q : α → β → Prop} (himp : ∀ a b, P a b → Q a b) {a : Option α}
    {b : Option β} (h : Option.Rel P a b) : Option.Rel Q a b := by
  cases h with
  | none => exact .none
  | some h => exact .some (himp _ _ h)

/-- Two steps have a result when the first has one and the second has one from there. -/
theorem exists_of_bind_eq_ok {x : Except ε α} {f : α → Except ε β} {b : β}
    (h : (x >>= f) = .ok b) : ∃ a, x = .ok a ∧ f a = .ok b := by
  cases x with
  | error e => cases h
  | ok a => exact ⟨a, rfl, h⟩

/-- Two steps in turn fail in the first step or, after its result, in the second. -/
theorem exists_of_bind_eq_error {x : Except ε α} {f : α → Except ε β} {e : ε}
    (h : (x >>= f) = .error e) : x = .error e ∨ ∃ a, x = .ok a ∧ f a = .error e := by
  cases x with
  | error other =>
      cases h
      exact .inl rfl
  | ok a => exact .inr ⟨a, rfl, h⟩

/-- A map whose steps all give a result gives the list of these results. -/
theorem mapM_eq_ok_map {f : α → Except ε β} {g : α → β} {xs : List α}
    (h : ∀ x ∈ xs, f x = .ok (g x)) : xs.mapM f = .ok (xs.map g) := by
  induction xs with
  | nil => rfl
  | cons x rest ih =>
      rw [List.mapM_cons, h x List.mem_cons_self,
        ih fun x hx => h x (List.mem_cons_of_mem _ hx)]
      rfl

theorem mapM_congr_forall₂ {f : α → Except ε γ} {g : β → Except ε γ} {xs : List α} {ys : List β}
    (h : List.Forall₂ (fun x y => f x = g y) xs ys) : xs.mapM f = ys.mapM g := by
  induction h with
  | nil => rfl
  | cons heq _ ih => rw [List.mapM_cons, List.mapM_cons, heq, ih]

/-- A map each of whose steps gives a result gives one. -/
theorem exists_mapM_eq_ok {f : α → Except ε γ} {xs : List α} (h : ∀ x ∈ xs, ∃ y, f x = .ok y) :
    ∃ ys, xs.mapM f = .ok ys := by
  induction xs with
  | nil => exact ⟨[], rfl⟩
  | cons x rest ih =>
      obtain ⟨y, hy⟩ := h x List.mem_cons_self
      obtain ⟨ys, hys⟩ := ih fun x hx => h x (List.mem_cons_of_mem _ hx)
      exact ⟨y :: ys, by rw [List.mapM_cons, hy, hys]; rfl⟩

/-- The results of a map that succeeds belong to the elements one for one. -/
theorem forall₂_of_mapM_eq_ok {f : α → Except ε β} {xs : List α} {ys : List β}
    (h : xs.mapM f = .ok ys) : List.Forall₂ (fun y x => f x = .ok y) ys xs := by
  induction xs generalizing ys with
  | nil =>
      cases h
      exact .nil
  | cons x xs ih =>
      rw [List.mapM_cons] at h
      obtain ⟨y, hy, h⟩ := exists_of_bind_eq_ok h
      obtain ⟨rest, hrest, h⟩ := exists_of_bind_eq_ok h
      cases h
      exact .cons hy (ih hrest)

/-- A computation over a list has a result only if it has one for every item. -/
theorem exists_of_mapM_eq_ok {f : α → Except ε β} {xs : List α} {ys : List β}
    (h : xs.mapM f = .ok ys) {x : α} (hx : x ∈ xs) : ∃ y, f x = .ok y := by
  obtain ⟨y, _, hy⟩ := exists_of_forall₂_of_mem (forall₂_of_mapM_eq_ok h).flip hx
  exact ⟨y, hy⟩

/-- A computation over a list fails on one of the items. -/
theorem exists_of_mapM_eq_error {f : α → Except ε β} {xs : List α} {e : ε}
    (h : xs.mapM f = .error e) : ∃ x ∈ xs, f x = .error e := by
  induction xs with
  | nil => cases h
  | cons x rest ih =>
      rw [List.mapM_cons] at h
      rcases exists_of_bind_eq_error h with h | ⟨_, _, h⟩
      · exact ⟨x, List.mem_cons_self, h⟩
      · rcases exists_of_bind_eq_error h with h | ⟨_, _, h⟩
        · obtain ⟨found, hfound, herror⟩ := ih h
          exact ⟨found, List.mem_cons_of_mem _ hfound, herror⟩
        · cases h

end

/-! ## Entries and their keys -/

section

variable {α β κ : Type}

/-- Items that are picked from a list have the keys of that list, in its order. -/
theorem map_filterMap_sublist {pick : α → Option β} {key : α → κ} {found : β → κ}
    (h : ∀ {a b}, pick a = some b → found b = key a) (items : List α) :
    ((items.filterMap pick).map found).Sublist (items.map key) := by
  induction items with
  | nil => exact .slnil
  | cons a rest ih =>
      rw [List.filterMap_cons, List.map_cons]
      split
      · exact ih.cons _
      · rename_i b hb
        rw [List.map_cons, h hb]
        exact ih.cons_cons _

/-- What picks more picks the same items and others between them. -/
theorem filterMap_sublist_filterMap {pick more : α → Option β}
    (h : ∀ {a b}, pick a = some b → more a = some b) (items : List α) :
    (items.filterMap pick).Sublist (items.filterMap more) := by
  induction items with
  | nil => exact .slnil
  | cons a rest ih =>
      cases hpick : pick a with
      | none =>
          rw [List.filterMap_cons_none hpick, List.filterMap_cons]
          split
          · exact ih
          · exact ih.cons _
      | some b =>
          rw [List.filterMap_cons_some hpick, List.filterMap_cons_some (h hpick)]
          exact ih.cons_cons _

variable [BEq κ] [LawfulBEq κ] {entries : List (κ × α)}

/-- An entry whose key occurs once is the one that is looked up. -/
theorem lookup_eq_some_of_mem (hnodup : (entries.map Prod.fst).Nodup) {entry : κ × α}
    (h : entry ∈ entries) : entries.lookup entry.1 = some entry.2 := by
  induction entries with
  | nil => cases h
  | cons first rest ih =>
      rw [List.map_cons, List.nodup_cons] at hnodup
      rcases List.mem_cons.mp h with rfl | hrest
      · rw [List.lookup_cons, beq_self_eq_true]
      · have hne : entry.1 ≠ first.1 := by
          intro heq
          exact hnodup.1 (heq ▸ List.mem_map_of_mem hrest)
        rw [List.lookup_cons, beq_false_of_ne hne]
        exact ih hnodup.2 hrest

theorem mem_of_lookup_eq_some {key : κ} {value : α} (h : entries.lookup key = some value) :
    (key, value) ∈ entries := by
  induction entries with
  | nil => cases h
  | cons first rest ih =>
      obtain ⟨other, old⟩ := first
      rw [List.lookup_cons] at h
      split at h
      · rename_i heq
        rw [beq_iff_eq] at heq
        cases h
        rw [heq]
        exact List.mem_cons_self
      · exact List.mem_cons_of_mem _ (ih h)

/-- Entries with different keys are found by lookup, and no others are. -/
theorem lookup_eq_some_iff (hnodup : (entries.map Prod.fst).Nodup) {key : κ} {value : α} :
    entries.lookup key = some value ↔ (key, value) ∈ entries :=
  ⟨mem_of_lookup_eq_some, lookup_eq_some_of_mem hnodup⟩

end

end StoryCatalog

/-!
# Adding up sizes

Trees are measured by a size, and the parts that a tree hands out are together smaller than the
tree. `sizeSum` is the measure of a list of parts. It does not change when the parts are put into
another order, and it does not grow when parts are left out.
-/

namespace StoryCatalog

/-- The sizes of a list of things added up. -/
def sizeSum {α : Type} (size : α → Nat) : List α → Nat
  | [] => 0
  | first :: rest => size first + sizeSum size rest

section

variable {α : Type} (size : α → Nat)

@[simp] theorem sizeSum_nil : sizeSum size [] = 0 := rfl

@[simp] theorem sizeSum_cons (first : α) (rest : List α) :
    sizeSum size (first :: rest) = size first + sizeSum size rest := rfl

@[simp] theorem sizeSum_append (front back : List α) :
    sizeSum size (front ++ back) = sizeSum size front + sizeSum size back := by
  induction front with
  | nil => simp
  | cons first rest ih =>
      rw [List.cons_append, sizeSum_cons, sizeSum_cons, ih, Nat.add_assoc]

/-- The order of the things does not matter. -/
theorem sizeSum_perm {first second : List α} (h : first.Perm second) :
    sizeSum size first = sizeSum size second := by
  induction h with
  | nil => rfl
  | cons thing _ ih => rw [sizeSum_cons, sizeSum_cons, ih]
  | swap a b rest =>
      simp only [sizeSum_cons]
      omega
  | trans _ _ ih₁ ih₂ => exact ih₁.trans ih₂

/-- Leaving things out makes the sum no larger. -/
theorem sizeSum_filter_le (keep : α → Bool) (things : List α) :
    sizeSum size (things.filter keep) ≤ sizeSum size things := by
  induction things with
  | nil => exact Nat.le_refl _
  | cons first rest ih =>
      simp only [List.filter_cons, sizeSum_cons]
      split
      · simp only [sizeSum_cons]
        omega
      · omega

/-- Each thing is no larger than all of them. -/
theorem le_sizeSum_of_mem {thing : α} {things : List α} (h : thing ∈ things) :
    size thing ≤ sizeSum size things := by
  induction things with
  | nil => simp at h
  | cons first rest ih =>
      simp only [List.mem_cons] at h
      simp only [sizeSum_cons]
      rcases h with rfl | h
      · omega
      · have := ih h
        omega

end

end StoryCatalog

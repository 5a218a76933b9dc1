import Mathlib.Data.List.Infix
import StoryCatalog.Proofs.Scan.Wildcard
import StoryCatalog.Scan.Sources
import StoryCatalog.Settings.Basic

/-!
# The standard exclusion

The two globs that leave files out when nothing else is said look at a path as one text, in which a
star also passes slashes. Together they say something about its names: one of them other than the
last is that of the directory (`standardExcluded_matches_iff`).
-/

namespace StoryCatalog

/-! ## Names between slashes -/

variable {name first : Name} {names rest : List Name}

/-- Names behind slashes. -/
def slashed (names : List Name) : Text :=
  names.flatMap fun name => 0x2F :: name

theorem joinNames_cons (first : Name) (rest : List Name) :
    joinNames (first :: rest) = first ++ slashed rest := by
  induction rest generalizing first with
  | nil =>
      rw [joinNames, Text.join, List.intercalate_singleton, slashed, List.flatMap_nil,
        List.append_nil]
  | cons second rest ih =>
      rw [joinNames, Text.join, List.intercalate_cons_cons, List.append_assoc]
      exact congrArg (fun t => first ++ 0x2F :: t) (ih second)

/-- A name with a slash behind it is in front exactly when it is the first of several. -/
theorem name_slash_prefix_iff (hname : (0x2F : CodePoint) ∉ name)
    (hfirst : (0x2F : CodePoint) ∉ first) :
    name ++ [0x2F] <+: first ++ slashed rest ↔ name = first ∧ rest ≠ [] := by
  have hbefore : ∀ {part more : Text}, (0x2F : CodePoint) ∉ part →
      (part ++ 0x2F :: more).takeWhile (· ≠ 0x2F) = part := by
    intro part more hpart
    rw [List.takeWhile_append_of_pos, List.takeWhile_cons_of_neg (by simp), List.append_nil]
    rintro c hc
    rw [decide_eq_true_eq]
    rintro rfl
    exact hpart hc
  cases rest with
  | nil =>
      refine iff_of_false ?_ (by simp)
      intro hstarts
      rw [slashed, List.flatMap_nil, List.append_nil] at hstarts
      exact hfirst (hstarts.subset (by simp))
  | cons second rest =>
      have hslashed : slashed (second :: rest) = 0x2F :: (second ++ slashed rest) := rfl
      constructor
      · rintro ⟨more, hmore⟩
        rw [hslashed, List.append_assoc] at hmore
        have htake := congrArg (List.takeWhile (· ≠ (0x2F : CodePoint))) hmore
        rw [List.singleton_append, hbefore hname, hbefore hfirst] at htake
        exact ⟨htake, by simp⟩
      · rintro ⟨rfl, -⟩
        rw [hslashed]
        exact ⟨second ++ slashed rest, List.append_assoc ..⟩

/-- What starts with a slash does not start inside a name. -/
theorem slash_infix_append_iff {inner more : Text} (hfirst : (0x2F : CodePoint) ∉ first) :
    0x2F :: inner <:+: first ++ more ↔ 0x2F :: inner <:+: more := by
  induction first with
  | nil => rfl
  | cons c first ih =>
      rw [List.mem_cons, not_or] at hfirst
      rw [List.cons_append, List.infix_cons_iff, ih hfirst.2, List.cons_prefix_cons]
      exact or_iff_right fun h => hfirst.1 h.1

/-- A name stands between two slashes exactly when it is one of the names but the last. -/
theorem between_slashes_iff (hname : (0x2F : CodePoint) ∉ name)
    (hnames : ∀ other ∈ names, (0x2F : CodePoint) ∉ other) :
    0x2F :: (name ++ [0x2F]) <:+: slashed names ↔ name ∈ names.dropLast := by
  induction names with
  | nil => simp [slashed]
  | cons first rest ih =>
      have hfirst := hnames first List.mem_cons_self
      have hslashed : slashed (first :: rest) = 0x2F :: (first ++ slashed rest) := rfl
      rw [hslashed, List.infix_cons_iff, List.cons_prefix_cons, slash_infix_append_iff hfirst,
        ih fun other hother => hnames other (List.mem_cons_of_mem first hother),
        name_slash_prefix_iff hname hfirst]
      cases rest with
      | nil => simp
      | cons second rest => simp

/-- A path starts with a name and a slash, or has the name between two slashes, exactly when it is
one of its names but the last. -/
theorem joinNames_passes_iff (hname : (0x2F : CodePoint) ∉ name)
    (hnames : ∀ other ∈ names, (0x2F : CodePoint) ∉ other) :
    (name ++ [0x2F] <+: joinNames names ∨ 0x2F :: (name ++ [0x2F]) <:+: joinNames names) ↔
      name ∈ names.dropLast := by
  rw [← between_slashes_iff hname hnames]
  cases names with
  | nil => simp [joinNames, Text.join, slashed]
  | cons first rest =>
      have hslashed : slashed (first :: rest) = 0x2F :: (first ++ slashed rest) := rfl
      rw [joinNames_cons, hslashed, List.infix_cons_iff, List.cons_prefix_cons]
      simp

namespace Settings

/-- The name of the directory whose files are left out when nothing else is said. -/
def excludedDirectory : Name := "node_modules"

/-- Some glob of the standard exclusion matches the path of names without slashes exactly when one
of them other than the last is the excluded directory. So with these globs a selection admits what
it admits without any, less what lies below such a directory. -/
theorem standardExcluded_matches_iff {names : List Name}
    (hnames : ∀ name ∈ names, (0x2F : CodePoint) ∉ name) :
    ((∃ glob ∈ standardExcluded, globMatches glob (joinNames names) = true) ↔
      excludedDirectory ∈ names.dropLast) ∧
    ∀ (selection : Selection) (ignoring : List IgnoreFile),
      { selection with excluded := standardExcluded }.admits ignoring names = true ↔
        { selection with excluded := [] }.admits ignoring names = true ∧
          excludedDirectory ∉ names.dropLast := by
  have hslash : (0x2F : CodePoint) ∉ excludedDirectory := by decide
  have hmatches : (∃ glob ∈ standardExcluded, globMatches glob (joinNames names) = true) ↔
      excludedDirectory ∈ names.dropLast := by
    have hglobs : standardExcluded =
        [excludedDirectory ++ [0x2F] ++ [0x2A],
          0x2A :: (0x2F :: (excludedDirectory ++ [0x2F])) ++ [0x2A]] := by decide
    rw [← joinNames_passes_iff hslash hnames, hglobs]
    simp only [List.exists_mem_cons_iff, List.not_mem_nil, false_and, exists_false, or_false]
    have hplain : ∀ c ∈ 0x2F :: (excludedDirectory ++ [0x2F]), Glob.IsPlain c :=
      List.forall_iff_forall_mem.mp (by decide)
    rw [Glob.matches_front_iff fun c hc => hplain c (List.mem_cons_of_mem _ hc),
      Glob.matches_inner_iff hplain]
  refine ⟨hmatches, fun selection ignoring => ?_⟩
  rw [← hmatches]
  simp [Selection.admits]

end Settings

/-- A directory of that name is excluded below any other one, also one with a line end in its name,
but neither a file of that name nor a directory whose name is longer. -/
theorem Settings.standardExcluded_matches_deep :
    let deep : List Name := ["a\nb", "node_modules", "[*].js"]
    let near : List Name := ["my_node_modules", "node_modulesx", "node_modules"]
    (∀ name ∈ deep ++ near, (0x2F : CodePoint) ∉ name) ∧
      (∃ glob ∈ standardExcluded, globMatches glob (joinNames deep) = true) ∧
      ¬∃ glob ∈ standardExcluded, globMatches glob (joinNames near) = true := by
  intro deep near
  have hdeep : ∀ name ∈ deep, (0x2F : CodePoint) ∉ name := by decide
  have hnear : ∀ name ∈ near, (0x2F : CodePoint) ∉ name := by decide
  refine ⟨List.forall_mem_append.mpr ⟨hdeep, hnear⟩, ?_, ?_⟩
  · exact (standardExcluded_matches_iff hdeep).1.mpr (by decide)
  · rw [(standardExcluded_matches_iff hnear).1]
    decide

end StoryCatalog

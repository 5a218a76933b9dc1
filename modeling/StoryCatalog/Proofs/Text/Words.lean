import Mathlib.Data.List.Chain
import StoryCatalog.Text.Blank

/-!
# Normal form and words

`HasWords` says which words a text is made of: its longest runs of characters that are not blank.
Every text has the words that `Text.words` reads and no others (`hasWords_iff`). The normal form of
a text is its words joined by single spaces (`normalize_eq_join_words`), so it has the same words,
is its own normal form, and tells the words of the text and nothing else.

Normalising trims both ends first and then collapses what is left. Read from the left that is one
pass over a text without blanks at its end, which starts as if a blank had gone before
(`normalize_eq_collapse`); the main induction goes over the words of this pass.
-/

namespace StoryCatalog

namespace Text

/-- A text without blanks that is not empty. -/
structure IsWord (word : Text) : Prop where
  ne_nil : word ≠ []
  not_blank : ∀ c ∈ word, c.isBlank = false

/-- The words of a text, in order. Behind a word comes a blank or nothing, so no word could be
longer. -/
inductive HasWords : Text → List Text → Prop
  | nil : HasWords [] []
  | blank {c : CodePoint} {rest : Text} {words : List Text} (hc : c.isBlank = true)
      (hrest : HasWords rest words) : HasWords (c :: rest) words
  | word {word rest : Text} {words : List Text} (hword : word.IsWord)
      (hend : ∀ c ∈ rest.head?, c.isBlank = true) (hrest : HasWords rest words) :
      HasWords (word ++ rest) (word :: words)

/-- The parts of a text between its blanks, without the empty ones. -/
def words (t : Text) : List Text :=
  (t.splitOnP CodePoint.isBlank).filter (· ≠ [])

/-- Single spaces are the only blanks of the text, and they stand inside it. -/
structure Spaced (t : Text) : Prop where
  head : ∀ c ∈ t.head?, c.isBlank = false
  last : ∀ c ∈ t.getLast?, c.isBlank = false
  space : ∀ c ∈ t, c.isBlank = true → c = CodePoint.space
  isolated : t.IsChain fun c d => c.isBlank = false ∨ d.isBlank = false

theorem isBlank_space : CodePoint.space.isBlank = true := by
  decide

/-! ## Words -/

@[simp] theorem words_nil : words [] = [] := by
  simp [words]

/-- A blank ends a word. -/
theorem words_append_blank (t rest : Text) {c : CodePoint} (hc : c.isBlank = true) :
    words (t ++ c :: rest) = words t ++ words rest := by
  rw [words, List.splitOnP_append_cons _ _ hc, List.filter_append]
  rfl

/-- A blank at the front belongs to no word. -/
theorem words_cons_blank {c : CodePoint} (hc : c.isBlank = true) (rest : Text) :
    words (c :: rest) = words rest := by
  rw [← List.nil_append (c :: rest), words_append_blank _ _ hc, words_nil, List.nil_append]

/-- A word has one word, itself. -/
theorem IsWord.words_eq {word : Text} (h : word.IsWord) : word.words = [word] := by
  rw [words, List.splitOnP_eq_singleton h.not_blank]
  simp [h.ne_nil]

/-- A word at the front that a blank or the end follows is the first word. -/
theorem IsWord.words_append {word rest : Text} (h : word.IsWord)
    (hend : ∀ c ∈ rest.head?, c.isBlank = true) : words (word ++ rest) = word :: words rest := by
  cases rest with
  | nil => rw [List.append_nil, h.words_eq, words_nil]
  | cons c rest =>
      have hc : c.isBlank = true := hend c rfl
      rw [words_append_blank _ _ hc, h.words_eq, words_cons_blank hc, List.singleton_append]

/-- What the relation says are the words of a text are its words. -/
theorem HasWords.eq_words {t : Text} {ws : List Text} (h : t.HasWords ws) : ws = t.words := by
  induction h with
  | nil => rw [words_nil]
  | blank hc _ ih => rw [words_cons_blank hc, ih]
  | word hword hend _ ih => rw [hword.words_append hend, ih]

/-- A character in front of a text is a word of its own or becomes part of the first word. -/
theorem HasWords.exists_cons {c : CodePoint} {rest : Text} {ws : List Text}
    (hc : c.isBlank = false) (h : rest.HasWords ws) : ∃ ws', HasWords (c :: rest) ws' := by
  have hsingle : IsWord [c] := ⟨List.cons_ne_nil _ _, by simpa using hc⟩
  cases h with
  | nil => exact ⟨_, .word hsingle (by simp) .nil⟩
  | blank hd hrest => exact ⟨_, .word hsingle (by simpa using hd) (.blank hd hrest)⟩
  | word hword hend hrest =>
      have hlonger : IsWord (c :: _) :=
        ⟨List.cons_ne_nil _ _, List.forall_mem_cons.mpr ⟨hc, hword.not_blank⟩⟩
      exact ⟨_, .word hlonger hend hrest⟩

/-- Every text has words. -/
theorem exists_hasWords (t : Text) : ∃ ws, t.HasWords ws := by
  induction t with
  | nil => exact ⟨[], .nil⟩
  | cons c rest ih =>
      obtain ⟨ws, h⟩ := ih
      cases hc : c.isBlank with
      | true => exact ⟨ws, .blank hc h⟩
      | false => exact h.exists_cons hc

/-- Every text has its words and no others. -/
theorem hasWords_iff {t : Text} {ws : List Text} : t.HasWords ws ↔ ws = t.words := by
  refine ⟨HasWords.eq_words, ?_⟩
  rintro rfl
  obtain ⟨ws, h⟩ := t.exists_hasWords
  rwa [← h.eq_words]

theorem hasWords_words (t : Text) : t.HasWords t.words :=
  hasWords_iff.mpr rfl

/-- All words of a text are words. -/
theorem HasWords.isWord {t : Text} {ws : List Text} (h : t.HasWords ws) :
    ∀ word ∈ ws, IsWord word := by
  induction h with
  | nil => simp
  | blank _ _ ih => exact ih
  | word hword _ _ ih => exact List.forall_mem_cons.mpr ⟨hword, ih⟩

/-! ## Trimming and collapsing -/

/-- A character at the front goes only when it is a blank and all behind it goes. -/
theorem trimRight_cons (c : CodePoint) (t : Text) :
    trimRight (c :: t) = if trimRight t = [] ∧ c.isBlank = true then [] else c :: trimRight t := by
  simp only [trimRight, List.reverse_cons, List.dropWhile_append, List.isEmpty_iff,
    List.reverse_eq_nil_iff]
  by_cases hnil : t.reverse.dropWhile CodePoint.isBlank = []
  · cases hc : c.isBlank <;> simp [hnil, hc]
  · simp [hnil]

/-- What has no blank stays when blanks behind it go. -/
theorem trimRight_append {word : Text} (h : ∀ c ∈ word, c.isBlank = false) (t : Text) :
    trimRight (word ++ t) = word ++ trimRight t := by
  induction word with
  | nil => rfl
  | cons c more ih =>
      obtain ⟨hc, hmore⟩ := List.forall_mem_cons.mp h
      rw [List.cons_append, trimRight_cons, if_neg (by simp [hc]), ih hmore, List.cons_append]

/-- Nothing is left of a text exactly when it has no words. -/
theorem HasWords.trimRight_eq_nil_iff {t : Text} {ws : List Text} (h : t.HasWords ws) :
    trimRight t = [] ↔ ws = [] := by
  induction h with
  | nil => simp [trimRight]
  | blank hc _ ih => simp [trimRight_cons, hc, ih]
  | word hword _ _ _ => simp [trimRight_append hword.not_blank, hword.ne_nil]

/-- A character that is no blank is kept, and ends a run of them. -/
theorem collapse_cons_of_not_blank {c : CodePoint} (hc : c.isBlank = false) (inRun : Bool)
    (t : Text) : collapse inRun (c :: t) = c :: collapse false t := by
  simp [collapse, hc]

/-- What has no blank is kept. -/
theorem collapse_append {word : Text} (h : ∀ c ∈ word, c.isBlank = false) (t : Text) :
    collapse false (word ++ t) = word ++ collapse false t := by
  induction word with
  | nil => rfl
  | cons c more ih =>
      obtain ⟨hc, hmore⟩ := List.forall_mem_cons.mp h
      rw [List.cons_append, collapse_cons_of_not_blank hc, ih hmore, List.cons_append]

/-- In a run of blanks a word ends the run. -/
theorem IsWord.collapse_append {word : Text} (h : word.IsWord) (inRun : Bool) (t : Text) :
    collapse inRun (word ++ t) = word ++ collapse false t := by
  obtain ⟨c, more, rfl⟩ := List.exists_cons_of_ne_nil h.ne_nil
  obtain ⟨hc, hmore⟩ := List.forall_mem_cons.mp h.not_blank
  rw [List.cons_append, collapse_cons_of_not_blank hc, Text.collapse_append hmore,
    List.cons_append]

/-- In a run of blanks one more blank makes no difference. -/
theorem collapse_trimRight_cons {c : CodePoint} (hc : c.isBlank = true) (t : Text) :
    collapse true (trimRight (c :: t)) = collapse true (trimRight t) := by
  rw [trimRight_cons]
  by_cases ht : trimRight t = []
  · simp [ht, hc]
  · simp [ht, hc, collapse]

/-- Behind a word, what is left of the rest follows after one space. -/
theorem collapse_trimRight_of_blank {t : Text} (h : ∀ c ∈ t.head?, c.isBlank = true) :
    collapse false (trimRight t) =
      if trimRight t = [] then [] else CodePoint.space :: collapse true (trimRight t) := by
  cases t with
  | nil => rfl
  | cons c rest =>
      have hc : c.isBlank = true := h c rfl
      rw [collapse_trimRight_cons hc, trimRight_cons]
      by_cases hrest : trimRight rest = []
      · simp [hrest, hc, collapse]
      · simp [hrest, hc, collapse]

/-- To drop the blanks in front is to collapse as if a blank had gone before. -/
theorem normalize_eq_collapse (t : Text) : t.normalize = collapse true (trimRight t) := by
  induction t with
  | nil => rfl
  | cons c rest ih =>
      cases hc : c.isBlank with
      | true =>
          have hdrop : normalize (c :: rest) = normalize rest := by
            simp [normalize, trim, hc]
          rw [hdrop, ih, collapse_trimRight_cons hc]
      | false =>
          have hkeep : normalize (c :: rest) = collapse false (trimRight (c :: rest)) := by
            simp [normalize, trim, hc]
          rw [hkeep, trimRight_cons, if_neg (by simp [hc]), collapse_cons_of_not_blank hc,
            collapse_cons_of_not_blank hc]

/-! ## Joined words -/

theorem join_ne_nil {word : Text} (h : word.IsWord) (ws : List Text) :
    join [CodePoint.space] (word :: ws) ≠ [] := by
  cases ws with
  | nil =>
      rw [join_singleton]
      exact h.ne_nil
  | cons next more => simp [join_cons_cons]

/-- One pass over a text without blanks at its end writes its words with a space between each
two. -/
theorem HasWords.collapse_trimRight {t : Text} {ws : List Text} (h : t.HasWords ws) :
    collapse true (trimRight t) = join [CodePoint.space] ws := by
  induction h with
  | nil => rfl
  | blank hc _ ih => rw [collapse_trimRight_cons hc, ih]
  | @word word rest ws hword hend hrest ih =>
      -- the rest starts with a blank or is empty: its first blank becomes the space before the
      -- next word, if there is one
      rw [trimRight_append hword.not_blank, hword.collapse_append,
        collapse_trimRight_of_blank hend, ih]
      cases ws with
      | nil => rw [if_pos (hrest.trimRight_eq_nil_iff.mpr rfl), List.append_nil, join_singleton]
      | cons next more =>
          have hleft : trimRight rest ≠ [] :=
            mt hrest.trimRight_eq_nil_iff.mp (List.cons_ne_nil _ _)
          rw [if_neg hleft, join_cons_cons, List.singleton_append]

/-- Joined words are made of these words. -/
theorem hasWords_join {ws : List Text} (h : ∀ word ∈ ws, IsWord word) :
    HasWords (join [CodePoint.space] ws) ws := by
  induction ws with
  | nil => exact .nil
  | cons word rest ih =>
      obtain ⟨hword, hrest⟩ := List.forall_mem_cons.mp h
      cases rest with
      | nil =>
          have hsingle := HasWords.word hword (by simp) .nil
          rw [List.append_nil] at hsingle
          rwa [join_singleton]
      | cons next more =>
          rw [join_cons_cons]
          exact .word hword (by simp [isBlank_space]) (.blank isBlank_space (ih hrest))

/-- A single word is spaced. -/
theorem IsWord.spaced {word : Text} (h : word.IsWord) : word.Spaced where
  head c hc := h.not_blank c (List.mem_of_mem_head? hc)
  last c hc := h.not_blank c (List.mem_of_mem_getLast? hc)
  space c hc hblank := by simp [h.not_blank c hc] at hblank
  isolated :=
    (List.pairwise_of_forall_mem_list fun c hc _ _ => .inl (h.not_blank c hc)).isChain

/-- A word, a space and more words are spaced. -/
theorem Spaced.append {word t : Text} (hword : word.IsWord) (ht : t.Spaced) (hne : t ≠ []) :
    Spaced (word ++ CodePoint.space :: t) where
  head := by
    rw [List.head?_append_of_ne_nil _ hword.ne_nil]
    exact hword.spaced.head
  last := by
    rw [List.getLast?_append_cons, List.getLast?_cons_of_ne_nil hne]
    exact ht.last
  space := by
    intro c hc hblank
    rcases List.mem_append.mp hc with hmem | hmem
    · exact hword.spaced.space c hmem hblank
    · rcases List.mem_cons.mp hmem with rfl | hmem
      · rfl
      · exact ht.space c hmem hblank
  isolated :=
    List.isChain_append.mpr ⟨hword.spaced.isolated,
      List.isChain_cons.mpr ⟨fun d hd => .inr (ht.head d hd), ht.isolated⟩,
      fun c hc _ _ => .inl (hword.spaced.last c hc)⟩

/-- The blanks of joined words are the spaces between them. -/
theorem spaced_join {ws : List Text} (h : ∀ word ∈ ws, IsWord word) :
    Spaced (join [CodePoint.space] ws) := by
  induction ws with
  | nil => exact ⟨by simp [join], by simp [join], by simp [join], .nil⟩
  | cons word rest ih =>
      obtain ⟨hword, hrest⟩ := List.forall_mem_cons.mp h
      cases rest with
      | nil =>
          rw [join_singleton]
          exact hword.spaced
      | cons next more =>
          rw [join_cons_cons]
          exact (ih hrest).append hword (join_ne_nil (hrest next List.mem_cons_self) more)

/-! ## The normal form -/

/-- A normal text is the words of the text with spaces between them. -/
theorem normalize_eq_join (t : Text) : t.normalize = join [CodePoint.space] t.words := by
  rw [normalize_eq_collapse, t.hasWords_words.collapse_trimRight]

/-- Normalisation keeps the words. -/
theorem words_normalize (t : Text) : t.normalize.words = t.words := by
  rw [normalize_eq_join]
  exact (hasWords_join t.hasWords_words.isWord).eq_words.symm

/-- Whatever the text, and with every kind of blank: it has one sequence of words, and its normal
form is these words joined by single spaces. So the normal form is its own normal form, no blank
stands at its ends and single spaces are the only blanks in it, and two texts have the same normal
form exactly when they have the same words. -/
theorem normalize_eq_join_words (t : Text) :
    (∀ ws, t.HasWords ws ↔ ws = t.words) ∧
      t.normalize = join [CodePoint.space] t.words ∧
      t.normalize.normalize = t.normalize ∧
      t.normalize.Spaced ∧
      ∀ other : Text, t.normalize = other.normalize ↔ t.words = other.words := by
  refine ⟨fun _ => hasWords_iff, t.normalize_eq_join, ?_, ?_, fun other => ⟨?_, ?_⟩⟩
  · rw [t.normalize.normalize_eq_join, words_normalize, ← normalize_eq_join]
  · rw [normalize_eq_join]
    exact spaced_join t.hasWords_words.isWord
  · intro h
    rw [← t.words_normalize, h, words_normalize]
  · intro h
    rw [normalize_eq_join, normalize_eq_join, h]

/-- A tab, a no-break space and a line feed between two words, and blanks around them. -/
example :
    normalize "\u2003a\t\u00a0\nbc " = "a bc" ∧ words "\u2003a\t\u00a0\nbc " = ["a", "bc"] := by
  decide

end Text

end StoryCatalog

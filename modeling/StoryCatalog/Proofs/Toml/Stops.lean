import StoryCatalog.Proofs.Toml.Careful

/-!
# What stops the reading of settings

A text that is no TOML is refused in words. A text that stops the reading at an integer has all the
digits in it (`longInteger_of_readText`), and one that stops it at values too deep within each other
has brackets enough for them (`deepNesting_of_readText`). Brackets that are not closed do stop the
reading, when there are enough of them (`readText_unclosed`).
-/

namespace StoryCatalog

namespace Toml

variable {source : Array CodePoint} {calls index : Nat}

/-- How many calls may stand beside those of values in values: they lead to the reader, and they
read a name or a single value. -/
def callsBeside : Nat := 90

/-- The opening brackets of the text are enough for the calls that the reading of a value may take,
less those that stand beside them. -/
def DeepNesting (t : Text) : Prop :=
  Datum.mostCalls ≤ openCalls t + callsBeside

/-! ## Documents -/

section

variable {t part : Text}

/-- What has no line end in it stands at the front of a text with line ends of either kind. -/
theorem prefix_of_prefix_normalizeNewlines (hpart : (0x0A : CodePoint) ∉ part)
    (h : part <+: normalizeNewlines t) : part <+: t := by
  induction t using normalizeNewlines.induct generalizing part with
  | case1 rest ih =>
      cases part with
      | nil => exact List.nil_prefix
      | cons c part =>
          rw [normalizeNewlines, List.cons_prefix_cons] at h
          exact absurd (List.mem_cons.mpr (.inl h.1.symm)) hpart
  | case2 c rest hnot ih =>
      cases part with
      | nil => exact List.nil_prefix
      | cons d part =>
          rw [normalizeNewlines, List.cons_prefix_cons] at h
          · obtain ⟨rfl, h⟩ := h
            rw [List.mem_cons, not_or] at hpart
            exact List.cons_prefix_cons.mpr ⟨rfl, ih hpart.2 h⟩
          · exact hnot
  | case3 => exact h

/-- What has no line end in it stands in a text with line ends of either kind. -/
theorem infix_of_infix_normalizeNewlines (hpart : (0x0A : CodePoint) ∉ part)
    (h : part <:+: normalizeNewlines t) : part <:+: t := by
  induction t using normalizeNewlines.induct with
  | case1 rest ih =>
      rw [normalizeNewlines, List.infix_cons_iff] at h
      rcases h with h | h
      · cases part with
        | nil => exact List.nil_infix
        | cons c part =>
            rw [List.cons_prefix_cons] at h
            exact absurd (List.mem_cons.mpr (.inl h.1.symm)) hpart
      · exact List.infix_cons (List.infix_cons (ih h))
  | case2 c rest hnot ih =>
      have hnormal : normalizeNewlines (c :: rest) = c :: normalizeNewlines rest := by
        rw [normalizeNewlines]
        exact hnot
      have hfirst := fun h => prefix_of_prefix_normalizeNewlines (t := c :: rest) hpart h
      rw [hnormal] at h hfirst
      rw [List.infix_cons_iff] at h ⊢
      exact h.imp hfirst ih
  | case3 => exact h

/-- A long integer of the text with its line ends normalized is one of the text itself. -/
theorem LongInteger.of_normalizeNewlines {digits : Nat}
    (h : LongInteger (normalizeNewlines t) digits) : LongInteger t digits := by
  obtain ⟨part, hpart, hdigits, hcount, hmany⟩ := h
  refine ⟨part, infix_of_infix_normalizeNewlines ?_ hpart, hdigits, hcount, hmany⟩
  intro hline
  rcases hdigits _ hline with hdigit | hunderscore
  · revert hdigit
    decide
  · revert hunderscore
    decide

/-- Line ends open nothing. -/
theorem openCalls_normalizeNewlines (t : Text) : openCalls (normalizeNewlines t) = openCalls t := by
  induction t using normalizeNewlines.induct with
  | case1 rest ih =>
      rw [normalizeNewlines, openCalls, openCalls, openCalls, ih, show callsOf 0x0D = 0 by decide,
        Nat.zero_add]
  | case2 c rest hnot ih =>
      rw [normalizeNewlines, openCalls, openCalls, ih]
      exact hnot
  | case3 => rfl

/-- What stops the reading of a text comes from a refusal of a careful step. -/
theorem exists_refusal_of_readText {stop : Stop} (h : readText t = .error stop) :
    ∃ r : Refusal, r.stop (normalizeNewlines t).toArray = stop ∧
      CarefulOutcome (α := Table) (normalizeNewlines t).toArray Datum.mostCalls 0 (.error r) := by
  unfold readText at h
  extract_lets source at h
  have hcareful : CarefulAt source Datum.mostCalls 0 document := careful_document 0
  unfold CarefulAt at hcareful
  cases hrun : document.run source 0 with
  | ok result =>
      rw [hrun] at h
      cases h
  | error r =>
      rw [hrun] at h
      rw [show document source 0 = .error r from hrun] at hcareful
      exact ⟨r, Except.error.inj h, hcareful⟩

/-- A fault of the text is said in words. -/
theorem stop_of_isOfText {fault : Fault} (h : fault.isOfText = true) (place : Nat) :
    Refusal.stop source ⟨fault, place⟩ = .malformed (Refusal.message source ⟨fault, place⟩) := by
  cases fault
  case tooLong => cases h
  case tooDeep => cases h
  all_goals rfl

/-- A text that stops the reading at the digits of an integer has them all in it. -/
theorem longInteger_of_readText {digits : Nat} (h : readText t = .error (.tooLong digits)) :
    LongInteger t digits := by
  obtain ⟨r, hstop, hcareful⟩ := exists_refusal_of_readText h
  cases hcareful with
  | refused hfault =>
      rw [stop_of_isOfText hfault] at hstop
      cases hstop
  | tooLong hlong =>
      cases hstop
      exact hlong.of_normalizeNewlines
  | tooDeep _ => cases hstop

/-- A text that stops the reading at values too deep within each other has brackets enough. -/
theorem deepNesting_of_readText (h : readText t = .error .tooDeep) : DeepNesting t := by
  obtain ⟨r, hstop, hcareful⟩ := exists_refusal_of_readText h
  cases hcareful with
  | refused hfault =>
      rw [stop_of_isOfText hfault] at hstop
      cases hstop
  | tooLong _ => cases hstop
  | tooDeep hcalls =>
      have hopened := openCalls_normalizeNewlines t
      exact Nat.le_add_right_of_le (hcalls.trans (Nat.le_of_eq hopened))

end

/-! ## Brackets that are not closed -/

/-- A repetition ends with the first result. -/
theorem run_repeatStep_of_inr {σ α : Type} {step : σ → P (σ ⊕ α)} {value : σ} {result : α}
    {next : Nat} (h : step value source index = .ok (.inr result, next)) :
    repeatStep value step source index = .ok (result, next) := by
  change (step value source index >>= _) = _
  rw [h]
  rfl

/-- A repetition fails with its first step. -/
theorem run_repeatStep_of_error {σ α : Type} {step : σ → P (σ ⊕ α)} {value : σ} {r : Refusal}
    (h : step value source index = .error r) :
    repeatStep value step source index = .error r := by
  change (step value source index >>= _) = _
  rw [h]
  rfl

/-- Two steps go on from where the first one ends. -/
theorem run_bind_of_ok {α β : Type} {p : P α} {f : α → P β} {a : α} {next : Nat}
    (h : p source index = .ok (a, next)) : (p >>= f) source index = f a source next := by
  change (p source index >>= fun x => f x.1 source x.2) = _
  rw [h]
  rfl

/-- Two steps fail with the first one. -/
theorem run_bind_of_error {α β : Type} {p : P α} {f : α → P β} {r : Refusal}
    (h : p source index = .error r) : (p >>= f) source index = .error r := by
  change (p source index >>= fun x => f x.1 source x.2) = _
  rw [h]
  rfl

theorem run_peek (distance : Nat) :
    peek distance source index = .ok (source[index + distance]?, index) :=
  rfl

theorem run_advance (distance : Nat) :
    advance distance source index = .ok ((), index + distance) :=
  rfl

/-- Nothing is skipped in front of what is not of the class. -/
theorem run_skip {p : CodePoint → Bool} (h : ∀ c ∈ source[index]?, p c = false) :
    skip p source index = .ok ((), index) := by
  have hbehind : behind p source index = index := by
    unfold behind
    split
    · rename_i hbound
      rw [if_neg (by simp [h source[index] (by simp [hbound])])]
    · rfl
  change Except.ok ((), behind p source index) = _
  rw [hbehind]

/-- No gap is skipped in front of a bracket, nor at the end. -/
theorem run_skipGap (h : ∀ c ∈ source[index]?, c = 0x5B) :
    skipGap source index = .ok ((), index) := by
  have hskip : skip isBlankOrNewline source index = .ok ((), index) :=
    run_skip fun c hc => by rw [h c hc]; decide
  have hcomment : skipComment source index = .ok ((), index) := by
    have hmark : (source[index + 0]? == some 0x23) = false := by
      refine beq_false_of_ne fun hc => ?_
      exact absurd (h _ hc) (by decide)
    rw [skipComment, run_bind_of_ok (run_peek 0), hmark]
    rfl
  rw [skipGap]
  refine run_repeatStep_of_inr ?_
  rw [run_bind_of_ok (a := index) rfl, run_bind_of_ok hskip, run_bind_of_ok hcomment,
    run_bind_of_ok (a := index) rfl, if_pos (beq_self_eq_true index)]
  rfl

/-- A list whose first item cannot be read. -/
theorem run_listItems {value : P Datum} {r : Refusal}
    (h : ∀ c ∈ source[index + 1]?, c = 0x5B) (hvalue : value source (index + 1) = .error r) :
    listItems value source index = .error r := by
  have hmark : (source[index + 1 + 0]? == some 0x5D) = false := by
    refine beq_false_of_ne fun hc => ?_
    exact absurd (h _ hc) (by decide)
  rw [listItems, run_bind_of_ok (run_advance 1), run_bind_of_ok (run_skipGap h)]
  refine run_repeatStep_of_error ?_
  rw [run_bind_of_ok (run_peek 0), hmark]
  exact run_bind_of_error hvalue

/-- A bracket is left to the step that reads a list. -/
theorem run_valueWith_list {list table : P Datum} (h : source[index]? = some 0x5B) :
    valueWith list table source index = list source index := by
  have hpeek : source[index + 0]? = some 0x5B := h
  rw [valueWith, run_bind_of_ok (run_peek 0), hpeek]
  rfl

/-- From an index on the source has nothing but this many brackets. -/
def BracketsFrom (source : Array CodePoint) (index count : Nat) : Prop :=
  source.toList.drop index = List.replicate count 0x5B

namespace BracketsFrom

variable {count : Nat}

/-- Behind the first bracket there is one less. -/
theorem next (h : BracketsFrom source index (count + 1)) :
    BracketsFrom source (index + 1) count := by
  rw [BracketsFrom, ← List.drop_drop, h]
  rfl

theorem getElem?_eq (h : BracketsFrom source index count) :
    source[index]? = (List.replicate count (0x5B : CodePoint))[0]? := by
  rw [← h, List.getElem?_drop, Array.getElem?_toList]
  rfl

theorem eq_of_mem (h : BracketsFrom source index count) : ∀ c ∈ source[index]?, c = 0x5B := by
  intro c hc
  rw [h.getElem?_eq] at hc
  exact List.eq_of_mem_replicate (List.mem_of_getElem? hc)

/-- A value fails with the value in its first bracket. -/
theorem run_valueWith {inner table : P Datum} {r : Refusal}
    (h : BracketsFrom source index (count + 1)) (hinner : inner source (index + 1) = .error r) :
    valueWith (listItems inner) table source index = .error r := by
  rw [run_valueWith_list h.getElem?_eq]
  exact run_listItems h.next.eq_of_mem hinner

/-- A value that starts with enough brackets is not read to its end when nothing follows them. -/
theorem exists_run_value (h : BracketsFrom source index count) (hcalls : calls ≤ 2 * count) :
    ∃ place, value calls source index = .error ⟨.tooDeep, place⟩ := by
  -- every bracket takes two of the calls
  induction calls using value.induct generalizing index count with
  | case1 => exact ⟨index, rfl⟩
  | case2 =>
      obtain ⟨count, rfl⟩ : ∃ fewer, count = fewer + 1 := ⟨count - 1, by omega⟩
      exact ⟨index, run_valueWith_list h.getElem?_eq⟩
  | case3 ih =>
      obtain ⟨count, rfl⟩ : ∃ fewer, count = fewer + 1 := ⟨count - 1, by omega⟩
      obtain ⟨place, hplace⟩ := ih h.next (Nat.zero_le _)
      exact ⟨place, h.run_valueWith hplace⟩
  | case4 calls ihlist _ =>
      obtain ⟨count, rfl⟩ : ∃ fewer, count = fewer + 1 := ⟨count - 1, by omega⟩
      obtain ⟨place, hplace⟩ := ihlist h.next (by omega)
      exact ⟨place, h.run_valueWith hplace⟩

end BracketsFrom

/-- A key of one letter before an equals sign. -/
theorem exists_run_key {c : CodePoint} (hc : source[index]? = some c) (hbare : isBareKey c = true)
    (hequals : source[index + 1]? = some 0x3D) :
    ∃ name, key source index = .ok (name, index + 1) := by
  have hbehind : behind isBareKey source index = index + 1 := by
    obtain ⟨hbound, hfirst⟩ := Array.getElem?_eq_some_iff.mp hc
    obtain ⟨hbound', hsecond⟩ := Array.getElem?_eq_some_iff.mp hequals
    rw [behind, dif_pos hbound, hfirst, if_pos hbare, behind, dif_pos hbound', hsecond,
      if_neg (by decide)]
  have hpart : keyPart source index =
      .ok ((source.extract index (index + 1)).toList, index + 1) := by
    have hskip : skip isBareKey source index = .ok ((), index + 1) := by
      rw [← hbehind]
      rfl
    have hpeek : source[index + 0]? = some c := hc
    rw [keyPart, run_bind_of_ok (run_peek 0), hpeek]
    dsimp only
    rw [if_pos hbare, run_bind_of_ok (a := index) rfl, run_bind_of_ok hskip]
    rfl
  have hblank : skip isBlank source (index + 1) = .ok ((), index + 1) :=
    run_skip fun c hc => by
      cases hequals.symm.trans hc
      decide
  have hpeek : source[index + 1 + 0]? = some 0x3D := hequals
  refine ⟨[(source.extract index (index + 1)).toList], ?_⟩
  rw [key, run_bind_of_ok hpart, run_bind_of_ok hblank]
  refine run_repeatStep_of_inr ?_
  rw [run_bind_of_ok (run_peek 0), hpeek]
  rfl

/-- The text gives the value of a key in brackets that are not closed. -/
def unclosed (count : Nat) : Text :=
  0x78 :: 0x3D :: List.replicate count 0x5B

theorem normalizeNewlines_unclosed (count : Nat) :
    normalizeNewlines (unclosed count) = unclosed count := by
  have hbrackets : normalizeNewlines (List.replicate count 0x5B) = List.replicate count 0x5B := by
    induction count with
    | zero => rfl
    | succ count ih =>
        rw [List.replicate_succ, normalizeNewlines, ih]
        simp
  rw [unclosed, normalizeNewlines, normalizeNewlines, hbrackets]
  · simp
  · simp

/-- Brackets that are not closed stop the reading when they are as many as the calls. -/
theorem readText_unclosed {count : Nat} (h : Datum.mostCalls ≤ 2 * count) :
    readText (unclosed count) = .error .tooDeep := by
  have hbrackets : BracketsFrom (unclosed count).toArray 2 count := rfl
  have hfirst : (unclosed count).toArray[0]? = some 0x78 := rfl
  have hequals : (unclosed count).toArray[1]? = some 0x3D := rfl
  obtain ⟨name, hkey⟩ := exists_run_key hfirst (by decide) hequals
  obtain ⟨place, hvalue⟩ := hbrackets.exists_run_value h
  have hblank : skip isBlank (unclosed count).toArray 2 = .ok ((), 2) :=
    run_skip fun c hc => by
      rw [hbrackets.eq_of_mem c hc]
      decide
  have hentry : entry (value Datum.mostCalls) (unclosed count).toArray 0 =
      .error ⟨.tooDeep, place⟩ := by
    have hpeek : (unclosed count).toArray[0 + 1 + 0]? = some 0x3D := hequals
    rw [entry, run_bind_of_ok hkey, run_bind_of_ok (run_peek 0), hpeek]
    dsimp only
    rw [if_neg (by simp), run_bind_of_ok (run_advance 1), run_bind_of_ok hblank]
    exact run_bind_of_error hvalue
  have hdocument : document.run (unclosed count).toArray 0 = .error ⟨.tooDeep, place⟩ := by
    have hstart : skip isBlank (unclosed count).toArray 0 = .ok ((), 0) :=
      run_skip fun c hc => by
        cases hfirst.symm.trans hc
        decide
    refine run_repeatStep_of_error ?_
    rw [run_bind_of_ok hstart, run_bind_of_ok (run_peek 0)]
    exact run_bind_of_error (run_bind_of_error hentry)
  rw [readText, normalizeNewlines_unclosed, hdocument]
  rfl

end Toml

end StoryCatalog

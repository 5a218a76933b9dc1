import Mathlib.Data.List.Infix
import StoryCatalog.Toml.Document

/-!
# Careful reading steps

Two things stop the reading of settings without a word about the text: a decimal integer with too
many digits, and values too deep within each other. A reading step is careful about them (`Careful`)
when the digits that it complains about are there, and when it complains of its calls only where
enough brackets follow for them. It also leaves no more brackets before it than there were, so that
careful steps can be put together. All steps are careful, up to that for the whole document
(`careful_document`).
-/

namespace StoryCatalog

namespace Toml

/-- Part of the text is a run of decimal digits, with underscores between them, that has this many
digits and more than an integer may have. -/
def LongInteger (t : Text) (digits : Nat) : Prop :=
  ∃ part, part <:+: t ∧ (∀ c ∈ part, isDigit c = true ∨ c = 0x5F) ∧
    (part.filter (· ≠ 0x5F)).length = digits ∧ Text.mostDigits < digits

/-- How many calls within each other lead from the value that a bracket opens to a value in it. -/
def callsOf (c : CodePoint) : Nat :=
  if c = 0x5B then 2 else if c = 0x7B then 3 else 0

/-- How many calls within each other all opening brackets of a text make at most. -/
def openCalls : Text → Nat
  | [] => 0
  | c :: rest => callsOf c + openCalls rest

/-- The calls that the opening brackets from an index on make at most. -/
def callsFrom (source : Array CodePoint) (index : Nat) : Nat :=
  openCalls (source.toList.drop index)

/-- The fault says in words why a text is no TOML. -/
def Fault.isOfText : Fault → Bool
  | .tooLong _ => false
  | .tooDeep => false
  | _ => true

/-- What a careful step that may make this many calls comes to from an index: it leaves no more
brackets before it than there were, and what it complains about is there. -/
inductive CarefulOutcome (source : Array CodePoint) (calls index : Nat) {α : Type} :
    Except Refusal (α × Nat) → Prop where
  | ok {a : α} {next : Nat} (h : callsFrom source next ≤ callsFrom source index) :
      CarefulOutcome source calls index (.ok (a, next))
  | refused {fault : Fault} {place : Nat} (h : fault.isOfText = true) :
      CarefulOutcome source calls index (.error ⟨fault, place⟩)
  | tooLong {digits place : Nat} (h : LongInteger source.toList digits) :
      CarefulOutcome source calls index (.error ⟨.tooLong digits, place⟩)
  | tooDeep {place : Nat} (h : calls ≤ callsFrom source index) :
      CarefulOutcome source calls index (.error ⟨.tooDeep, place⟩)

/-- A step on a source is careful when it starts at an index. -/
def CarefulAt {α : Type} (source : Array CodePoint) (calls index : Nat) (p : P α) : Prop :=
  CarefulOutcome source calls index (p source index)

/-- A step on a source is careful wherever it starts. -/
def Careful {α : Type} (source : Array CodePoint) (calls : Nat) (p : P α) : Prop :=
  ∀ index, CarefulAt source calls index p

variable {source : Array CodePoint} {calls index : Nat}

/-! ## Brackets before a place -/

theorem openCalls_drop_le (t : Text) (count : Nat) : openCalls (t.drop count) ≤ openCalls t := by
  induction t generalizing count with
  | nil => simp [openCalls]
  | cons c rest ih =>
      cases count with
      | zero => exact Nat.le_refl _
      | succ count => exact Nat.le_add_left_of_le (ih count)

theorem callsFrom_le {next : Nat} (h : index ≤ next) :
    callsFrom source next ≤ callsFrom source index := by
  obtain ⟨more, rfl⟩ := Nat.exists_eq_add_of_le h
  rw [callsFrom, callsFrom, ← List.drop_drop]
  exact openCalls_drop_le _ more

/-- A place counts for what its character opens. -/
theorem callsFrom_of_getElem? {c : CodePoint} (h : source[index]? = some c) :
    callsFrom source index = callsOf c + callsFrom source (index + 1) := by
  obtain ⟨hbound, hc⟩ := Array.getElem?_eq_some_iff.mp h
  have hdrop : source.toList.drop index = c :: source.toList.drop (index + 1) := by
    rw [List.drop_eq_getElem_cons (by simpa using hbound), Array.getElem_toList, hc]
  rw [callsFrom, hdrop, openCalls, callsFrom]

/-! ## Putting steps together -/

/-- What is careful from a later place is careful from here, with the calls for what is opened on
the way. -/
theorem CarefulOutcome.opened {α : Type} {x : Except Refusal (α × Nat)} {next : Nat} (more : Nat)
    (h : CarefulOutcome source calls next x)
    (hle : callsFrom source next + more ≤ callsFrom source index) :
    CarefulOutcome source (calls + more) index x := by
  cases h with
  | ok h => exact .ok (by omega)
  | refused h => exact .refused h
  | tooLong h => exact .tooLong h
  | tooDeep h => exact .tooDeep (by omega)

namespace CarefulAt

variable {α β : Type} {p q : P α} {f : α → P β} {fault : Fault}

theorem bind (hp : CarefulAt source calls index p) (hf : ∀ a, Careful source calls (f a)) :
    CarefulAt source calls index (p >>= f) := by
  change CarefulOutcome source calls index (p source index >>= fun x => f x.1 source x.2)
  unfold CarefulAt at hp
  generalize p source index = x at hp
  cases hp with
  | ok h => exact (hf _ _).opened 0 h
  | refused h => exact .refused h
  | tooLong h => exact .tooLong h
  | tooDeep h => exact .tooDeep h

theorem ite {c : Prop} [Decidable c] (hp : CarefulAt source calls index p)
    (hq : CarefulAt source calls index q) : CarefulAt source calls index (if c then p else q) := by
  split
  · exact hp
  · exact hq

theorem pure (a : α) : CarefulAt source calls index (Pure.pure a : P α) :=
  .ok (Nat.le_refl _)

theorem set {next : Nat} (h : index ≤ next) :
    CarefulAt source calls index (MonadStateOf.set next : P PUnit) :=
  .ok (callsFrom_le h)

theorem bind_peek {f : Option CodePoint → P β} {distance : Nat}
    (hf : CarefulAt source calls index (f source[index + distance]?)) :
    CarefulAt source calls index (peek distance >>= f) :=
  hf

/-- Go on unless there is something to be refused. -/
theorem guarded {c : Prop} [Decidable c] {next : Unit → P α} (hfault : fault.isOfText = true)
    (hnext : ∀ u, CarefulAt source calls index (next u)) :
    CarefulAt source calls index (if c then Toml.refuse fault >>= next else next ()) :=
  ite (.refused hfault) (hnext ())

end CarefulAt

namespace Careful

variable {σ α β : Type} {p q : P α} {f : α → P β} {fault : Fault}

theorem bind (hp : Careful source calls p) (hf : ∀ a, Careful source calls (f a)) :
    Careful source calls (p >>= f) :=
  fun index => (hp index).bind hf

theorem bind_read {f : Array CodePoint → P β} (hf : Careful source calls (f source)) :
    Careful source calls (MonadReader.read >>= f) :=
  hf

theorem bind_get {f : Nat → P β} (hf : ∀ index, CarefulAt source calls index (f index)) :
    Careful source calls (MonadState.get >>= f) :=
  hf

theorem bind_textBetween {f : Text → P β} {start stop : Nat}
    (hf : Careful source calls (f (source.extract start stop).toList)) :
    Careful source calls (textBetween start stop >>= f) :=
  hf

theorem pure (a : α) : Careful source calls (Pure.pure a : P α) :=
  fun _ => .pure a

theorem get : Careful source calls (MonadState.get : P Nat) :=
  fun _ => .ok (Nat.le_refl _)

theorem read : Careful source calls (MonadReader.read : P (Array CodePoint)) :=
  fun _ => .ok (Nat.le_refl _)

theorem ite {c : Prop} [Decidable c] (hp : Careful source calls p) (hq : Careful source calls q) :
    Careful source calls (if c then p else q) :=
  fun index => (hp index).ite (hq index)

theorem refuse (hfault : fault.isOfText = true) :
    Careful source calls (Toml.refuse fault : P α) :=
  fun _ => .refused hfault

theorem refuse_tooLong {digits : Nat} (h : LongInteger source.toList digits) :
    Careful source calls (Toml.refuse (.tooLong digits) : P α) :=
  fun _ => .tooLong h

theorem guarded {c : Prop} [Decidable c] {next : Unit → P α} (hfault : fault.isOfText = true)
    (hnext : ∀ u, Careful source calls (next u)) :
    Careful source calls (if c then Toml.refuse fault >>= next else next ()) :=
  fun index => .guarded hfault fun u => hnext u index

theorem loop {rounds : Nat} {step : σ → P (σ ⊕ α)}
    (hstep : ∀ value, Careful source calls (step value)) (value : σ) :
    Careful source calls (Toml.loop rounds step value) := by
  induction rounds generalizing value with
  | zero => exact refuse rfl
  | succ rounds ih =>
      refine bind (hstep value) fun outcome => ?_
      cases outcome with
      | inl next => exact ih next
      | inr result => exact pure result

theorem repeatStep {step : σ → P (σ ⊕ α)} (value : σ)
    (hstep : ∀ value, Careful source calls (step value)) :
    Careful source calls (Toml.repeatStep value step) :=
  bind read fun _ => loop hstep value

end Careful

/-! ## Characters -/

theorem careful_peek (distance : Nat) : Careful source calls (peek distance) :=
  .bind .read fun _ => .bind .get fun _ => .pure _

theorem careful_advance (distance : Nat) : Careful source calls (advance distance) :=
  fun _ => .ok (callsFrom_le (Nat.le_add_right _ _))

theorem le_behind (p : CodePoint → Bool) (source : Array CodePoint) (index : Nat) :
    index ≤ behind p source index := by
  fun_induction behind p source index with
  | case1 index _ _ ih => omega
  | case2 => exact Nat.le_refl _
  | case3 => exact Nat.le_refl _

theorem careful_skip (p : CodePoint → Bool) : Careful source calls (skip p) :=
  .bind_read (.bind_get fun _ => .set (le_behind _ _ _))

theorem careful_textBetween (start stop : Nat) : Careful source calls (textBetween start stop) :=
  .bind .read fun _ => .pure _

theorem careful_looks (t : Text) : Careful source calls (looks t) :=
  .bind .read fun _ => .bind .get fun _ => .pure _

theorem le_of_find? {mark : Text} {stop : Nat} (h : find? mark source index = some stop) :
    index ≤ stop := by
  fun_induction find? mark source index with
  | case1 index _ =>
      cases h
      exact Nat.le_refl _
  | case2 index _ _ ih =>
      have := ih h
      omega
  | case3 => cases h

/-- Behind the end of a text nothing is opened. -/
theorem callsFrom_size : callsFrom source source.size = 0 := by
  rw [callsFrom, List.drop_eq_nil_of_le (by simp)]
  rfl

theorem careful_skipTo (mark : Text) (needed : Bool) (forbidden : CodePoint → Bool) :
    Careful source calls (skipTo mark needed forbidden) := by
  refine .bind_read (.bind_get fun start => ?_)
  extract_lets bad goOn
  have hgoOn : ∀ stop, callsFrom source stop ≤ callsFrom source start →
      CarefulAt source calls start (goOn stop) := fun stop hstop =>
    .ite (.refused rfl) (.ok hstop)
  split
  · rename_i stop hfind
    exact hgoOn stop (callsFrom_le (le_of_find? hfind))
  · exact .ite (.refused rfl) (hgoOn _ (by simp [callsFrom_size]))

theorem careful_skipComment : Careful source calls skipComment :=
  .bind (careful_peek 0) fun _ =>
    .ite (.bind (careful_advance 1) fun _ => careful_skipTo _ _ _) (.pure _)

theorem careful_skipGap : Careful source calls skipGap :=
  .repeatStep () fun _ =>
    .bind .get fun _ => .bind (careful_skip _) fun _ => .bind careful_skipComment fun _ =>
      .bind .get fun _ => .pure _

/-! ## Texts -/

theorem careful_hexCharacter (width : Nat) : Careful source calls (hexCharacter width) := by
  refine .bind .get fun start => .bind (careful_textBetween _ _) fun digits => ?_
  refine .guarded rfl fun _ => .bind (careful_advance width) fun _ => ?_
  split
  · exact .ite (.refuse rfl) (.pure _)
  · exact .refuse rfl

theorem careful_escape (multiline : Bool) : Careful source calls (escape multiline) := by
  refine .bind (careful_peek 1) fun second => .bind (careful_advance 2) fun _ => ?_
  split
  · exact .refuse rfl
  · refine .ite ?_ (.ite ?_ (.ite ?_ ?_))
    · extract_lets goOn
      have hgoOn : ∀ u, Careful source calls (goOn u) := fun _ =>
        .bind (careful_skip _) fun _ => .pure _
      refine .ite (.bind (careful_skip _) fun _ => .bind (careful_peek 0) fun next => ?_) (hgoOn ())
      split
      · exact .pure _
      · exact .guarded rfl fun _ => .bind (careful_advance 1) hgoOn
    · exact .bind (careful_hexCharacter 4) fun _ => .pure _
    · exact .bind (careful_hexCharacter 8) fun _ => .pure _
    · split
      · exact .pure _
      · exact .refuse rfl

theorem careful_basicText (multiline : Bool) : Careful source calls (basicText multiline) := by
  refine .repeatStep [] fun read => .bind (careful_peek 0) fun next => ?_
  split
  · exact .refuse rfl
  · refine .ite (.ite ?_ ?_) (.ite ?_ ?_)
    · exact .bind (careful_advance 1) fun _ => .pure _
    · refine .bind (careful_looks _) fun _ => .ite ?_ ?_
      · exact .bind (careful_advance 3) fun _ => .pure _
      · exact .bind (careful_advance 1) fun _ => .pure _
    · exact .bind (careful_escape multiline) fun _ => .pure _
    · exact .ite (.refuse rfl) (.bind (careful_advance 1) fun _ => .pure _)

theorem careful_literalText : Careful source calls literalText :=
  .bind .get fun _ => .bind (careful_skipTo _ _ _) fun _ => .bind .get fun _ =>
    .bind (careful_textBetween _ _) fun _ => .bind (careful_advance 1) fun _ => .pure _

theorem careful_multilineText (literal : Bool) : Careful source calls (multilineText literal) := by
  refine .bind (careful_advance 3) fun _ => .bind (careful_peek 0) fun _ => ?_
  extract_lets mark close goOn
  have hclose : ∀ text, Careful source calls (close text) := fun text =>
    .bind (careful_peek 0) fun _ => .ite (.pure _) <|
      .bind (careful_advance 1) fun _ => .bind (careful_peek 0) fun _ => .ite (.pure _) <|
        .bind (careful_advance 1) fun _ => .pure _
  have hgoOn : ∀ u, Careful source calls (goOn u) := by
    refine fun _ => .ite ?_ (.bind (careful_basicText true) hclose)
    exact .bind .get fun _ => .bind (careful_skipTo _ _ _) fun _ => .bind .get fun _ =>
      .bind (careful_textBetween _ _) fun _ => .bind (careful_advance 3) fun _ =>
        .bind (.pure _) hclose
  exact .ite (.bind (careful_advance 1) hgoOn) (hgoOn ())

/-! ## Numbers and moments -/

theorem le_moreDigits (p : CodePoint → Bool) (source : Array CodePoint) (rounds index : Nat) :
    index ≤ moreDigits p source rounds index := by
  induction rounds generalizing index with
  | zero => exact Nat.le_refl _
  | succ rounds ih =>
      have hnext := ih (index + 1)
      have hbehind := ih (index + 2)
      simp only [moreDigits]
      split
      · omega
      · split
        · omega
        · exact Nat.le_refl _

theorem le_digitsEnd (p : CodePoint → Bool) (source : Array CodePoint) (index : Nat) :
    index ≤ digitsEnd p source index := by
  have hmore := le_moreDigits p source source.size (index + 1)
  unfold digitsEnd
  split
  · omega
  · exact Nat.le_refl _

theorem le_signEnd (source : Array CodePoint) (index : Nat) : index ≤ signEnd source index := by
  unfold signEnd
  split
  · exact Nat.le_succ index
  · exact Nat.le_refl _

theorem careful_basedNumber? : Careful source calls basedNumber? := by
  refine .bind_read (.bind_get fun start => ?_)
  extract_lets based
  have hbased : ∀ base p, CarefulAt source calls start (based base p) := by
    intro base p
    have hstop := le_digitsEnd p source (start + 2)
    refine .ite (.pure _) (.bind (.set (by omega)) fun _ => ?_)
    exact .bind (careful_textBetween _ _) fun _ => .pure _
  -- looking at the source does not move the place
  exact CarefulAt.ite (hbased _ _) (.ite (hbased _ _) (.ite (hbased _ _) (.pure _)))

theorem careful_specialNumber? : Careful source calls specialNumber? := by
  refine .bind_read (.bind_get fun start => ?_)
  have hstart := le_signEnd source start
  refine CarefulAt.ite ?_ (.ite ?_ (.pure _))
  · exact .bind (.set (by omega)) fun _ => .pure _
  · exact .bind (.set (by omega)) fun _ => .pure _

theorem le_of_clockAt? {clock : Clock} {stop : Nat}
    (h : clockAt? source index = some (clock, stop)) : index ≤ stop := by
  have hbehind := le_behind isDigit source (index + 9)
  simp only [clockAt?, Option.bind_eq_bind, Option.bind_eq_some_iff] at h
  obtain ⟨hour, -, minute, -, second, -, h⟩ := h
  split at h
  · split at h
    · cases h
      omega
    · cases h
      omega
  · cases h

theorem le_of_offsetAt? {offset : Int} {stop : Nat}
    (h : offsetAt? source index = some (offset, stop)) : index ≤ stop := by
  simp only [offsetAt?, Option.bind_eq_bind, Option.bind_eq_some_iff] at h
  obtain ⟨c, -, h⟩ := h
  split at h
  · cases h
    exact Nat.le_succ index
  · split at h
    · simp only [Option.bind_eq_some_iff] at h
      obtain ⟨hour, -, minute, -, h⟩ := h
      split at h
      · cases h
        omega
      · cases h
    · cases h

theorem careful_moment? : Careful source calls moment? := by
  refine .bind_read (.bind_get fun start => ?_)
  have hset : ∀ (value : Option Datum) {stop : Nat}, start ≤ stop →
      CarefulAt source calls start (do set stop; return value) :=
    fun value stop hstop => .bind (.set hstop) fun _ => .pure _
  split
  · refine .guarded rfl fun _ => ?_
    dsimp only
    split
    · exact hset _ (by omega)
    · rename_i clock stop hclock
      have hstop : start ≤ stop := by
        split at hclock
        · have := le_of_clockAt? hclock
          omega
        · cases hclock
      split
      · rename_i hoffset
        exact hset _ (Nat.le_trans hstop (le_of_offsetAt? hoffset))
      · exact hset _ hstop
  · split
    · rename_i hclock
      exact hset _ (le_of_clockAt? hclock)
    · exact .pure _

theorem exists_of_getD_map {p : CodePoint → Bool} {i : Nat}
    (h : (source[i]?.map p).getD false = true) : ∃ c, source[i]? = some c ∧ p c = true := by
  cases hc : source[i]? with
  | none => simp [hc] at h
  | some c => exact ⟨c, rfl, by simpa [hc] using h⟩

/-- Digits and underscores stand before the end of more digits. -/
theorem digit_of_lt_moreDigits {p : CodePoint → Bool} {rounds index i : Nat} (hlow : index ≤ i)
    (hhigh : i < moreDigits p source rounds index) :
    ∃ c, source[i]? = some c ∧ (p c = true ∨ c = 0x5F) := by
  induction rounds generalizing index with
  | zero => exact absurd hhigh (Nat.not_lt.mpr hlow)
  | succ rounds ih =>
      simp only [moreDigits] at hhigh
      split at hhigh
      · rename_i hdigit
        obtain ⟨c, hc, hp⟩ := exists_of_getD_map hdigit
        rcases Nat.eq_or_lt_of_le hlow with rfl | hlater
        · exact ⟨c, hc, .inl hp⟩
        · exact ih hlater hhigh
      · split at hhigh
        · rename_i hunderscore
          rw [Bool.and_eq_true, beq_iff_eq] at hunderscore
          obtain ⟨c, hc, hp⟩ := exists_of_getD_map hunderscore.2
          rcases Nat.eq_or_lt_of_le hlow with rfl | hlater
          · exact ⟨0x5F, hunderscore.1, .inr rfl⟩
          · rcases Nat.eq_or_lt_of_le hlater with rfl | hlater
            · exact ⟨c, hc, .inl hp⟩
            · exact ih hlater hhigh
        · exact absurd hhigh (Nat.not_lt.mpr hlow)

theorem digit_of_lt_digitsEnd {p : CodePoint → Bool} {index i : Nat} (hlow : index ≤ i)
    (hhigh : i < digitsEnd p source index) :
    ∃ c, source[i]? = some c ∧ (p c = true ∨ c = 0x5F) := by
  unfold digitsEnd at hhigh
  split at hhigh
  · rename_i hdigit
    obtain ⟨c, hc, hp⟩ := exists_of_getD_map hdigit
    rcases Nat.eq_or_lt_of_le hlow with rfl | hlater
    · exact ⟨c, hc, .inl hp⟩
    · exact digit_of_lt_moreDigits hlater hhigh
  · exact absurd hhigh (Nat.not_lt.mpr hlow)

/-- Digits before their end are a long integer when there are too many of them. -/
theorem longInteger_extract {start stop : Nat}
    (hdigits : ∀ i, start ≤ i → i < stop → ∃ c, source[i]? = some c ∧ (isDigit c = true ∨ c = 0x5F))
    (hmany : Text.mostDigits < ((source.extract start stop).toList.filter (· ≠ 0x5F)).length) :
    LongInteger source.toList ((source.extract start stop).toList.filter (· ≠ 0x5F)).length := by
  refine ⟨(source.extract start stop).toList, ?_, ?_, rfl, hmany⟩
  · rw [Array.toList_extract, List.extract_eq_take_drop]
    exact (List.take_prefix _ _).isInfix.trans (List.drop_suffix _ _).isInfix
  · intro c hc
    obtain ⟨i, hi⟩ := List.mem_iff_getElem?.mp hc
    rw [Array.getElem?_toList, Array.getElem?_extract] at hi
    split at hi
    · rename_i hbound
      obtain ⟨d, hd, hdigit⟩ := hdigits (start + i) (Nat.le_add_right _ _) (by omega)
      cases hd.symm.trans hi
      exact hdigit
    · cases hi

/-- An optional part of a number does not end before its start. -/
theorem le_optionalPart {present absent : Prop} [Decidable present] [Decidable absent]
    {start stop : Nat} (h : start ≤ stop) :
    start ≤ if present then if absent then start else stop else start := by
  split
  · split
    · exact Nat.le_refl _
    · exact h
  · exact Nat.le_refl _

theorem careful_decimalNumber? : Careful source calls decimalNumber? := by
  refine .bind_read (.bind_get fun start => ?_)
  extract_lets wholeStart wholeStop negative fractionDigits fractionStop exponentStart
    exponentDigits exponentStop
  have hstop : start ≤ exponentStop := by
    have hwholeStart : start ≤ wholeStart := le_signEnd source start
    have hwholeStop : wholeStart ≤ wholeStop := by
      by_cases hzero : (source[wholeStart]? == some 0x30) = true
      · rw [show wholeStop = wholeStart + 1 from if_pos hzero]
        exact Nat.le_succ wholeStart
      · rw [show wholeStop = digitsEnd isDigit source wholeStart from if_neg hzero]
        exact le_digitsEnd isDigit source wholeStart
    have hfractionDigits : wholeStop + 1 ≤ fractionDigits := le_digitsEnd isDigit source _
    have hfractionStop : wholeStop ≤ fractionStop := le_optionalPart (by omega)
    have hexponentStart : fractionStop + 1 ≤ exponentStart := le_signEnd source _
    have hexponentDigits : exponentStart ≤ exponentDigits := le_digitsEnd isDigit source _
    have hexponentStop : fractionStop ≤ exponentStop := le_optionalPart (by omega)
    omega
  refine .ite (.pure _) (.bind (.set hstop) fun _ => .bind_textBetween (.ite ?_ ?_))
  · -- the digits before the point are all that is counted
    extract_lets count goOn
    by_cases hmany : Text.mostDigits < count
    · rw [if_pos hmany]
      refine .bind (.refuse_tooLong (longInteger_extract ?_ hmany)) fun _ => .pure _
      intro i hlow hhigh
      by_cases hzero : (source[wholeStart]? == some 0x30) = true
      · rw [show wholeStop = wholeStart + 1 from if_pos hzero] at hhigh
        obtain rfl : wholeStart = i := by omega
        exact ⟨0x30, beq_iff_eq.mp hzero, .inl rfl⟩
      · rw [show wholeStop = digitsEnd isDigit source wholeStart from if_neg hzero] at hhigh
        exact digit_of_lt_digitsEnd hlow hhigh
    · rw [if_neg hmany]
      exact .pure _
  · exact .bind (careful_textBetween _ _) fun _ => .bind (careful_textBetween _ _) fun _ => .pure _

theorem careful_scalar : Careful source calls scalar := by
  refine .bind (careful_looks _) fun _ => .ite (.bind (careful_advance 4) fun _ => .pure _) ?_
  refine .bind (careful_looks _) fun _ => .ite (.bind (careful_advance 5) fun _ => .pure _) ?_
  refine .bind careful_moment? fun moment => ?_
  split
  · exact .pure _
  refine .bind careful_basedNumber? fun based => ?_
  split
  · exact .pure _
  refine .bind careful_decimalNumber? fun decimal => ?_
  split
  · exact .pure _
  refine .bind careful_specialNumber? fun special => ?_
  split
  · exact .pure _
  · exact .refuse rfl

/-! ## Keys and values -/

theorem careful_keyPart : Careful source calls keyPart := by
  refine .bind (careful_peek 0) fun next => ?_
  split
  · refine .ite ?_ (.ite ?_ (.ite ?_ (.refuse rfl)))
    · exact .bind .get fun _ => .bind (careful_skip _) fun _ => .bind .get fun _ =>
        careful_textBetween _ _
    · exact .bind (careful_advance 1) fun _ => careful_literalText
    · exact .bind (careful_advance 1) fun _ => careful_basicText false
  · exact .refuse rfl

theorem careful_key : Careful source calls key := by
  refine .bind careful_keyPart fun first => .bind (careful_skip _) fun _ => ?_
  refine .repeatStep [first] fun parts => .bind (careful_peek 0) fun _ => .ite (.pure _) ?_
  exact .bind (careful_advance 1) fun _ => .bind (careful_skip _) fun _ =>
    .bind careful_keyPart fun _ => .bind (careful_skip _) fun _ => .pure _

section
variable {value : P Datum}

theorem careful_entry (hvalue : Careful source calls value) :
    Careful source calls (entry value) :=
  .bind careful_key fun _ => .bind (careful_peek 0) fun _ => .guarded rfl fun _ =>
    .bind (careful_advance 1) fun _ => .bind (careful_skip _) fun _ =>
      .bind hvalue fun _ => .pure _

/-- A step that starts behind a bracket may make the calls for it as well. -/
theorem carefulAt_behind_bracket {α : Type} {c : CodePoint} {f : Unit → P α}
    (hc : source[index]? = some c) (hf : Careful source calls (f ())) :
    CarefulAt source (calls + callsOf c) index (advance 1 >>= f) := by
  have hopened := callsFrom_of_getElem? hc
  exact (hf (index + 1)).opened (callsOf c) (by omega)

theorem careful_listItems (hvalue : Careful source calls value)
    (hopen : source[index]? = some 0x5B) :
    CarefulAt source (calls + 2) index (listItems value) := by
  refine carefulAt_behind_bracket hopen (.bind careful_skipGap fun _ => ?_)
  refine .repeatStep [] fun items => .bind (careful_peek 0) fun _ => .ite ?_ ?_
  · exact .bind (careful_advance 1) fun _ => .pure _
  · refine .bind hvalue fun _ => .bind careful_skipGap fun _ => .bind (careful_peek 0) fun _ => ?_
    refine .ite ?_ (.ite (.pure _) (.refuse rfl))
    exact .bind (careful_advance 1) fun _ => .bind careful_skipGap fun _ => .pure _

theorem careful_inlineTable (hvalue : Careful source calls value)
    (hopen : source[index]? = some 0x7B) :
    CarefulAt source (calls + 3) index (inlineTable value) := by
  refine carefulAt_behind_bracket hopen (.bind (careful_skip _) fun _ => ?_)
  refine .bind (careful_peek 0) fun _ => .ite (.bind (careful_advance 1) fun _ => .pure _) ?_
  refine .repeatStep _ fun ⟨table, frozen⟩ => .bind (careful_entry hvalue) fun ⟨key, datum⟩ => ?_
  refine .guarded rfl fun _ => .guarded rfl fun _ => ?_
  split
  · exact .refuse rfl
  · refine .bind (careful_skip _) fun _ => .bind (careful_peek 0) fun _ => .ite ?_ (.ite ?_ ?_)
    · exact .bind (careful_advance 1) fun _ => .pure _
    · exact .refuse rfl
    · exact .bind (careful_advance 1) fun _ => .bind (careful_skip _) fun _ => .pure _

end

/-- When the calls are used up at a bracket, it opens more of them. -/
theorem carefulAt_refuse_tooDeep {α : Type} {c : CodePoint} (hc : source[index]? = some c)
    (hcalls : calls ≤ callsOf c) : CarefulAt source calls index (refuse .tooDeep : P α) := by
  have hopened := callsFrom_of_getElem? hc
  exact .tooDeep (by omega)

/-- A value is read with care when the lists and tables that start here are. -/
theorem careful_valueWith {list table : P Datum}
    (hlist : source[index]? = some 0x5B → CarefulAt source calls index list)
    (htable : source[index]? = some 0x7B → CarefulAt source calls index table) :
    CarefulAt source calls index (valueWith list table) := by
  refine .bind_peek ?_
  split
  · rename_i c hc
    refine .ite ?_ (.ite ?_ ?_)
    · refine .bind (careful_looks _ _) fun _ => .ite ?_ ?_
      · exact .bind (careful_multilineText false) fun _ => .pure _
      · exact .bind (careful_advance 1) fun _ => .bind (careful_basicText false) fun _ => .pure _
    · refine .bind (careful_looks _ _) fun _ => .ite ?_ ?_
      · exact .bind (careful_multilineText true) fun _ => .pure _
      · exact .bind (careful_advance 1) fun _ => .bind careful_literalText fun _ => .pure _
    by_cases hopen : c = 0x5B
    · rw [if_pos hopen]
      exact hlist (hopen ▸ hc)
    · rw [if_neg hopen]
      by_cases hbrace : c = 0x7B
      · rw [if_pos hbrace]
        exact htable (hbrace ▸ hc)
      · rw [if_neg hbrace]
        exact careful_scalar index
  · exact .refused rfl

theorem careful_value (calls : Nat) : Careful source calls (value calls) := by
  induction calls using value.induct with
  | case1 => exact fun _ => .tooDeep (Nat.zero_le _)
  | case2 =>
      intro index
      exact careful_valueWith (carefulAt_refuse_tooDeep · (by decide))
        (carefulAt_refuse_tooDeep · (by decide))
  | case3 ih =>
      intro index
      exact careful_valueWith (careful_listItems ih) (carefulAt_refuse_tooDeep · (by decide))
  | case4 calls ihlist ihtable =>
      intro index
      exact careful_valueWith (careful_listItems ihlist) (careful_inlineTable ihtable)

/-! ## Statements -/

theorem careful_tableHead (d : Document) : Careful source calls (tableHead d) := by
  refine .bind (careful_advance 1) fun _ => .bind (careful_skip _) fun _ => ?_
  refine .bind careful_key fun key => .guarded rfl fun _ => ?_
  split
  · exact .refuse rfl
  · exact .bind (careful_looks _) fun _ => .guarded rfl fun _ =>
      .bind (careful_advance 1) fun _ => .pure _

theorem careful_listHead (d : Document) : Careful source calls (listHead d) := by
  refine .bind (careful_advance 2) fun _ => .bind (careful_skip _) fun _ => ?_
  refine .bind careful_key fun key => .guarded rfl fun _ => ?_
  split
  · exact .refuse rfl
  · exact .bind (careful_looks _) fun _ => .guarded rfl fun _ =>
      .bind (careful_advance 2) fun _ => .pure _

theorem careful_entryStatement (d : Document) :
    Careful source Datum.mostCalls (entryStatement d) := by
  refine .bind (careful_entry (careful_value _)) fun ⟨key, datum⟩ => ?_
  dsimp only
  split
  · exact .refuse rfl
  · refine .guarded rfl fun _ => .guarded rfl fun _ => ?_
    split
    · exact .refuse rfl
    · exact .pure _

theorem careful_document : Careful source Datum.mostCalls document := by
  refine .repeatStep _ fun d => .bind (careful_skip _) fun _ => ?_
  refine .bind (careful_peek 0) fun next => ?_
  split
  · exact .pure _
  · refine .ite (.bind (careful_advance 1) fun _ => .pure _) ?_
    extract_lets close
    have hclose : ∀ d, Careful source Datum.mostCalls (close d) := by
      refine fun d => .bind (careful_skip _) fun _ => .bind careful_skipComment fun _ => ?_
      refine .bind (careful_peek 0) fun next => ?_
      split
      · exact .pure _
      · exact .guarded rfl fun _ => .bind (careful_advance 1) fun _ => .pure _
    refine .ite (.bind (careful_entryStatement d) hclose) (.ite ?_ (.ite ?_ ?_))
    · exact .bind (careful_looks _) fun _ =>
        .ite (.bind (careful_listHead d) hclose) (.bind (careful_tableHead d) hclose)
    · exact .bind (.pure _) hclose
    · exact .bind (.refuse rfl) hclose

end Toml

end StoryCatalog

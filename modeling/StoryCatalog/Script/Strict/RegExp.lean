import StoryCatalog.Script.Character
import StoryCatalog.Syntax.Escape
import StoryCatalog.Text.CharacterName

/-!
# Well-formed regular expressions

The strict reader accepts a regular expression only when its pattern is well formed: groups are
closed, quantifiers follow something that can be repeated, ranges ascend, references point at
closed groups, letters are not escaped without a meaning, and a look-behind has one fixed width,
which is not too large.
Code-point escapes are replaced by their characters beforehand, and characters beyond the first
plane by a stand-in.
-/

namespace StoryCatalog.Script.Strict.RegExp

/-- The least and the greatest number of characters that a pattern matches. -/
structure Width where
  least : Nat
  greatest : Option Nat
deriving DecidableEq

namespace Width

/-- Nothing is matched. -/
def empty : Width := ⟨0, some 0⟩

/-- One character is matched. -/
def single : Width := ⟨1, some 1⟩

/-- One pattern behind another. -/
def append (a b : Width) : Width :=
  ⟨a.least + b.least, do return (← a.greatest) + (← b.greatest)⟩

/-- Either of two patterns. -/
def either (a b : Width) : Width :=
  ⟨min a.least b.least, do return max (← a.greatest) (← b.greatest)⟩

/-- A pattern repeated. -/
def times (w : Width) (least : Nat) (greatest : Option Nat) : Width :=
  ⟨w.least * least,
    if greatest == some 0 || w.greatest == some 0 then some 0
    else do return (← w.greatest) * (← greatest)⟩

/-- The greatest width of a look-behind. -/
def farthest : Nat := 0x7FFFFFFF

/-- All matches have the same length, and a look-behind may go so far. -/
def isFixed (w : Width) : Bool :=
  w.greatest == some w.least && w.least ≤ farthest

end Width

/-- What a quantifier may find in front of it. -/
inductive ItemKind where
  | anchor
  | quantified
  | plain
deriving DecidableEq

/-- An item of a sequence. -/
structure Item where
  kind : ItemKind
  width : Width

/-- The pattern that is left, the groups opened so far (the width of a closed one), their names,
the groups that conditions ask for, the number of groups before the look-behind that is open, and
the switches that are on for the whole pattern. -/
structure State where
  rest : List Nat
  groups : Array (Option Width)
  names : List (List Nat × Nat)
  conditions : List Nat
  behind : Option Nat
  switches : List Nat

/-- Blanks and comments may stand in the whole pattern. -/
def State.extended (s : State) : Bool :=
  s.switches.contains 0x78

/-- A reading step of a pattern, which fails on one that is not well formed. -/
abbrev R := StateT State Option

/-- The next character. -/
def peek : R (Option Nat) := do
  return (← get).rest.head?

/-- The next character, consumed. -/
def next : R Nat := do
  match (← get).rest with
  | [] => failure
  | c :: rest =>
      modify fun s => { s with rest }
      return c

/-- Consume this character if it is the next one. An escaped character is never matched. -/
def accept (c : Char) : R Bool := do
  if (← peek) == some c.toNat then
    let _ ← next
    return true
  else return false

/-- Consume this character or fail. -/
def expect (c : Char) : R Unit := do
  if !(← accept c) then failure

/-- The code point is an ASCII digit below a base of at most ten. -/
def isDigitOf (base n : Nat) : Bool :=
  0x30 ≤ n && n < 0x30 + base

/-- The code point is a hexadecimal digit. -/
def isHex (n : Nat) : Bool :=
  isDigitOf 10 n || (0x41 ≤ n && n ≤ 0x46) || (0x61 ≤ n && n ≤ 0x66)

/-- The value of a hexadecimal digit. -/
def hexValue (n : Nat) : Nat :=
  if n < 0x40 then n - 0x30 else if n < 0x60 then n - 0x41 + 10 else n - 0x61 + 10

/-- At most this many characters of a class. -/
def takeUpTo (count : Nat) (p : Nat → Bool) : R (List Nat) := do
  let taken := ((← get).rest.take count).takeWhile p
  modify fun s => { s with rest := s.rest.drop taken.length }
  return taken

/-- The value of digits. -/
def valueOf (base : Nat) (digits : List Nat) : Nat :=
  digits.foldl (fun value d => value * base + hexValue d) 0

/-- Exactly this many hexadecimal digits. -/
def hexExactly (count : Nat) : R Nat := do
  let digits ← takeUpTo count isHex
  if digits.length == count then return valueOf 16 digits else failure

/-- The letters whose escape is a class of characters. -/
def isClassLetter (n : Nat) : Bool :=
  "dDsSwW".toList.any fun c => c.toNat == n

/-- The letters whose escape is a control character. -/
def controlValue? (n : Nat) : Option Nat :=
  if n == 0x61 then some 7
  else if n == 0x62 then some 8
  else if n == 0x66 then some 12
  else if n == 0x6E then some 10
  else if n == 0x72 then some 13
  else if n == 0x74 then some 9
  else if n == 0x76 then some 11
  else none

/-- The characters up to this one, which is consumed too. There must be some. -/
def takeUntil (stop : Char) : R (List Nat) := do
  let taken ← takeUpTo (← get).rest.length fun n => n != stop.toNat
  expect stop
  if taken.isEmpty then failure else return taken

/-- The character whose name stands in braces. -/
def namedCharacter : R Nat := do
  expect '\x7b'
  let name ← takeUntil '\x7d'
  match codePointOfName? (String.ofList (name.map Char.ofNat)) with
  | some value => return value
  | none => failure

/-- The escapes that read alike inside and outside of a set. -/
def commonEscape (c : Nat) : R (Option Nat) := do
  if c == 0x78 then return some (← hexExactly 2)
  else if c == 0x75 then return some (← hexExactly 4)
  else if c == 0x55 then
    let value ← hexExactly 8
    if value < 0x110000 then return some value else failure
  else if c == 0x4E then return some (← namedCharacter)
  else if isAsciiLetter c then failure
  else return none

/-- A member of a set: a character, or `none` for a class. -/
def setMember (c : Nat) : R (Option Nat) := do
  if c != 0x5C then return some c
  let e ← next
  match controlValue? e with
  | some value => return some value
  | none =>
      if isClassLetter e then return none
      else if isDigitOf 8 e then
        let value := valueOf 8 (e :: (← takeUpTo 2 (isDigitOf 8)))
        if value ≤ 0xFF then return some value else failure
      else if isDigitOf 10 e then failure
      else
        match ← commonEscape e with
        | some value => return some value
        | none => return some e

/-- The rest of a set behind its opening bracket. -/
def setRest : Nat → Bool → R Unit
  | 0, _ => failure
  | fuel + 1, isFirst => do
      let c ← next
      if c == 0x5D && !isFirst then return ()
      let low ← setMember c
      if ← accept '-' then
        let d ← next
        if d == 0x5D then return ()
        let high ← setMember d
        match low, high with
        | some low, some high => if high < low then failure else setRest fuel false
        | _, _ => failure
      else setRest fuel false

/-- A group may be referred to when it is closed and not part of the look-behind that is open. -/
def checkReference (group : Nat) : R Unit := do
  let s ← get
  match s.behind with
  | none => return ()
  | some limit =>
      if (s.groups.getD group none).isNone then failure
      if group ≥ limit then failure

/-- The item that an escape outside of a set makes. -/
def escapeItem (c : Nat) : R Item := do
  if c == 0x41 || c == 0x5A || c == 0x62 || c == 0x42 then return ⟨.anchor, .empty⟩
  else if isClassLetter c || (controlValue? c).isSome then return ⟨.plain, .single⟩
  else if c == 0x30 then
    let _ ← takeUpTo 2 (isDigitOf 8)
    return ⟨.plain, .single⟩
  else if isDigitOf 10 c then
    let second ← takeUpTo 1 (isDigitOf 10)
    let third ←
      if isDigitOf 8 c && second.any (isDigitOf 8) then takeUpTo 1 (isDigitOf 8) else pure []
    if !third.isEmpty then
      if valueOf 8 (c :: second ++ third) ≤ 0xFF then return ⟨.plain, .single⟩ else failure
    let group := valueOf 10 (c :: second)
    match (← get).groups.getD group none with
    | some width =>
        checkReference group
        return ⟨.plain, width⟩
    | none => failure
  else
    let _ ← commonEscape c
    return ⟨.plain, .single⟩

/-- The bounds of a quantifier in braces behind the opening one; `none` when the brace is an
ordinary character, and then nothing is consumed. -/
def bracedBounds : R (Option (Nat × Option Nat)) := do
  let before ← get
  if (← peek) == some 0x7D then return none
  let low ← takeUpTo before.rest.length (isDigitOf 10)
  let high ←
    if ← accept ',' then do
      let digits ← takeUpTo before.rest.length (isDigitOf 10)
      pure (if digits.isEmpty then none else some (valueOf 10 digits))
    else pure (if low.isEmpty then none else some (valueOf 10 low))
  if !(← accept '\x7d') then
    set before
    return none
  let least := valueOf 10 low
  if least ≥ 4294967295 then failure
  match high with
  | some greatest =>
      if greatest ≥ 4294967295 || greatest < least then failure
      return some (least, some greatest)
  | none => return some (least, none)

/-- Repeat the latest item. -/
def quantify (items : List Item) (least : Nat) (greatest : Option Nat) : R (List Item) := do
  match items with
  | [] => failure
  | item :: before =>
      if item.kind != .plain then failure
      if !(← accept '?') then
        let _ ← accept '+'
      return ⟨.quantified, item.width.times least greatest⟩ :: before

/-- The text may name a group. -/
def isGroupName (name : List Nat) : Bool :=
  let isLetter (n : Nat) : Bool := isNameStart n && n != 0x24 && n != 0x5C
  let isPart (n : Nat) : Bool := isNamePart n && n != 0x24 && n != 0x5C
  match name with
  | [] => false
  | first :: rest => isLetter first && rest.all isPart

/-- The name of a group up to this character. -/
def groupName (stop : Char) : R (List Nat) := do
  let name ← takeUntil stop
  if isGroupName name then return name else failure

/-- The group that a condition asks for, by its name or its number. -/
def conditionGroup : R Nat := do
  let name ← takeUntil ')'
  if isGroupName name then
    match (← get).names.lookup name with
    | some number => return number
    | none => failure
  else
    match Escape.integer? 10 (name.filterMap CodePoint.ofNat?) with
    | some number =>
        if number ≤ 0 then failure
        modify fun s => { s with conditions := number.toNat :: s.conditions }
        return number.toNat
    | none => failure

/-- What the letters behind the opening of a group switch on and off. -/
structure Switches where
  on : List Nat
  off : List Nat
  isGlobal : Bool

/-- The letters of switches. -/
def isSwitch (n : Nat) : Bool :=
  "imsxatu".toList.any fun c => c.toNat == n

/-- Switches behind the opening of a group, whose first letter is given. -/
def switches (first : Nat) : R Switches := do
  let length := (← get).rest.length
  let on ← if first == 0x2D then pure [] else do
    let more ← takeUpTo length isSwitch
    pure (first :: more)
  if on.contains 0x61 && on.contains 0x75 then failure
  let mark ← if first == 0x2D then pure 0x2D else next
  if mark == 0x29 then return ⟨on, [], true⟩
  if on.contains 0x74 then failure
  let off ← if mark == 0x2D then do
      let off ← takeUpTo length isSwitch
      if off.isEmpty then failure
      expect ':'
      pure off
    else if mark == 0x3A then pure []
    else failure
  if off.any fun n => n == 0x61 || n == 0x75 || n == 0x74 then failure
  if on.any off.contains then failure
  return ⟨on, off, false⟩

/-- How to read what stands in a group: all alternatives, or a single one. Blanks and comments may
stand in it or not. -/
structure Sub where
  whole : Bool → R Width
  branch : Bool → R Width

/-- A group with a condition, behind the parenthesis that opens the condition. A second branch is
for the case that the condition does not hold. -/
def conditional (sub : Sub) (extended : Bool) : R Item := do
  let number ← conditionGroup
  checkReference number
  let yes ← sub.branch extended
  let no ← if ← accept '|' then sub.branch extended else pure .empty
  expect ')'
  return ⟨.plain, yes.either no⟩

/-- A group behind its opening parenthesis. The result is `none` when the group adds no item.
`isFirst` says that the group stands at the very start of the pattern. -/
def group (sub : Sub) (extended isFirst : Bool) : R (Option Item) := do
  let capturing (name : Option (List Nat)) : R (Option Item) := do
    let s ← get
    let number := s.groups.size
    let names := match name with
      | some n => (n, number) :: s.names
      | none => s.names
    if let some n := name then
      if (s.names.lookup n).isSome then failure
    set { s with groups := s.groups.push none, names }
    let width ← sub.whole extended
    expect ')'
    modify fun t => { t with groups := t.groups.set! number (some width) }
    return some ⟨.plain, width⟩
  if !(← accept '?') then capturing none
  else
    let c ← next
    if c == 0x50 then
      if ← accept '<' then capturing (some (← groupName '>'))
      else if ← accept '=' then
        let name ← groupName ')'
        let s ← get
        match s.names.lookup name with
        | none => failure
        | some number =>
            match s.groups.getD number none with
            | none => failure
            | some width =>
                checkReference number
                return some ⟨.plain, width⟩
      else failure
    else if c == 0x28 then return some (← conditional sub extended)
    else if c == 0x3A || c == 0x3E then
      let width ← sub.whole extended
      expect ')'
      return some ⟨.plain, width⟩
    else if c == 0x23 then
      let _ ← takeUpTo (← get).rest.length fun n => n != 0x29
      expect ')'
      return none
    else if c == 0x3D || c == 0x21 then
      let _ ← sub.whole extended
      expect ')'
      return some ⟨.plain, .empty⟩
    else if c == 0x3C then
      let d ← next
      if d != 0x3D && d != 0x21 then failure
      let before := (← get).behind
      if before.isNone then
        modify fun s => { s with behind := some s.groups.size }
      let width ← sub.whole extended
      modify fun s => { s with behind := before }
      expect ')'
      if width.isFixed then return some ⟨.plain, .empty⟩ else failure
    else if isSwitch c || c == 0x2D then
      let found ← switches c
      if found.isGlobal then
        if !isFirst then failure
        modify fun s => { s with switches := found.on ++ s.switches }
        return none
      let inner := (extended || found.on.contains 0x78) && !found.off.contains 0x78
      let width ← sub.whole inner
      expect ')'
      return some ⟨.plain, width⟩
    else failure

/-- A sequence of items up to a bar, a closing parenthesis or the end. -/
def sequence (sub : Sub) (isTop : Bool) : Nat → Bool → List Item → R Width
  | 0, _, _ => failure
  | fuel + 1, extended, items => do
      match ← peek with
      | none => return items.foldl (fun w item => item.width.append w) .empty
      | some c =>
          if c == 0x7C || c == 0x29 then
            return items.foldl (fun w item => item.width.append w) .empty
          let _ ← next
          let continueWith (items : List Item) : R Width :=
            sequence sub isTop fuel extended items
          if extended && (c == 0x20 || (0x09 ≤ c && c ≤ 0x0D)) then continueWith items
          else if extended && c == 0x23 then
            let _ ← takeUpTo (← get).rest.length fun n => n != 0x0A
            continueWith items
          else if c == 0x5C then
            let item ← escapeItem (← next)
            continueWith (item :: items)
          else if c == 0x5B then
            let _ ← accept '^'
            setRest ((← get).rest.length + 1) true
            continueWith (⟨.plain, .single⟩ :: items)
          else if c == 0x3F then continueWith (← quantify items 0 (some 1))
          else if c == 0x2A then continueWith (← quantify items 0 none)
          else if c == 0x2B then continueWith (← quantify items 1 none)
          else if c == 0x7B then
            match ← bracedBounds with
            | none => continueWith (⟨.plain, .single⟩ :: items)
            | some (least, greatest) => continueWith (← quantify items least greatest)
          else if c == 0x28 then
            match ← group sub extended (isTop && items.isEmpty) with
            | some item => continueWith (item :: items)
            | none =>
                let s ← get
                sequence sub isTop fuel (extended || (isTop && s.extended)) items
          else if c == 0x5E || c == 0x24 then continueWith (⟨.anchor, .empty⟩ :: items)
          else continueWith (⟨.plain, .single⟩ :: items)

/-- Alternatives with bars between them; `isFirst` holds for the first one of the whole pattern. -/
def alternatives (sub : Sub) (isTop : Bool) : Nat → Bool → Bool → R Width
  | 0, _, _ => failure
  | fuel + 1, extended, isFirst => do
      let width ← sequence sub (isTop && isFirst) ((← get).rest.length + 1) extended []
      if ← accept '|' then
        let s ← get
        let rest ← alternatives sub isTop fuel (extended || (isTop && s.extended)) false
        return width.either rest
      else return width

/-- Alternatives of groups nested at most this deep. -/
def nested : Nat → Sub
  | 0 => ⟨fun _ => failure, fun _ => failure⟩
  | depth + 1 =>
      { whole := fun extended => do
          alternatives (nested depth) false ((← get).rest.length + 1) extended true
        branch := fun extended => do
          sequence (nested depth) false ((← get).rest.length + 1) extended [] }

/-- Code-point escapes replaced by their characters. -/
def replaceEscapes : Nat → List Nat → Option (List Nat)
  | 0, _ => some []
  | _, [] => some []
  | fuel + 1, 0x5C :: 0x75 :: 0x7B :: rest =>
      let digits := rest.takeWhile isHex
      match rest.drop digits.length with
      | 0x7D :: after =>
          if digits.isEmpty then
            (replaceEscapes fuel rest).map (0x5C :: 0x75 :: 0x7B :: ·)
          else
            let value := valueOf 16 digits
            if value > 0x10FFFF then none
            else (replaceEscapes fuel after).map ((if value ≤ 0xFFFF then value else 0xFFFF) :: ·)
      | _ => (replaceEscapes fuel rest).map (0x5C :: 0x75 :: 0x7B :: ·)
  | fuel + 1, 0x5C :: 0x75 :: rest =>
      let digits := (rest.take 4).takeWhile isHex
      if digits.length == 4 then
        (replaceEscapes fuel (rest.drop 4)).map (valueOf 16 digits :: ·)
      else (replaceEscapes fuel rest).map (0x5C :: 0x75 :: ·)
  | fuel + 1, c :: rest => (replaceEscapes fuel rest).map (c :: ·)

/-- Surrogate pairs replaced by the stand-in. -/
def replacePairs : List Nat → List Nat
  | high :: low :: rest =>
      if 0xD800 ≤ high && high ≤ 0xDBFF && 0xDC00 ≤ low && low ≤ 0xDFFF then
        0xFFFF :: replacePairs rest
      else high :: replacePairs (low :: rest)
  | rest => rest

/-- At the end of a pattern nothing is left, conditions ask for groups that there are, and letters
are not both those of ASCII and those of all scripts. -/
def State.isComplete (s : State) : Bool :=
  s.rest.isEmpty && s.conditions.all (· < s.groups.size)
    && !(s.switches.contains 0x61 && s.switches.contains 0x75)

/-- Whether a pattern is well formed. -/
def isValid (pattern : List Char) : Bool :=
  match replaceEscapes (pattern.length + 1) (pattern.map Char.toNat) with
  | none => false
  | some points =>
      let rest := replacePairs points
      let start : State := ⟨rest, #[none], [], [], none, []⟩
      match (alternatives (nested rest.length) true (rest.length + 1) false true).run start with
      | some (_, s) => s.isComplete
      | none => false

end StoryCatalog.Script.Strict.RegExp

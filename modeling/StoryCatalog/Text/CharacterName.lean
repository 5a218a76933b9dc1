import StoryCatalog.Text.CharacterName.Alias
import StoryCatalog.Text.CharacterName.Ancient
import StoryCatalog.Text.CharacterName.Eastern
import StoryCatalog.Text.CharacterName.Notation
import StoryCatalog.Text.CharacterName.Pattern
import StoryCatalog.Text.CharacterName.Phonetic
import StoryCatalog.Text.CharacterName.Pictograph
import StoryCatalog.Text.CharacterName.Presentation
import StoryCatalog.Text.CharacterName.Sign
import StoryCatalog.Text.CharacterName.Southern
import StoryCatalog.Text.CharacterName.Symbol
import StoryCatalog.Text.CharacterName.Western

/-!
# Names of characters

`codePointOfName?` finds the character with a name of the Unicode standard. Most names stand in
tables and are compared without regard to case. The names of ideographs are made of their code
points, and those of Hangul syllables of their letters; these two kinds are in capitals.
-/

namespace StoryCatalog

/-! ## Names in tables -/

/-- All blocks of names. -/
def nameBlocks : List NameBlock :=
  westernNames ++ southernNames ++ phoneticNames ++ symbolNames ++ patternNames ++ easternNames
    ++ presentationNames ++ ancientNames ++ signNames ++ notationNames ++ pictographNames

/-! ## Numbered names -/

/-- A code point in capital hexadecimal digits. -/
def hexName (n : Nat) : String :=
  (String.ofList (Nat.toDigits 16 n)).toUpper

/-- Characters that are named by their code points behind the same words, from the first to the
last. -/
structure NumberedNames where
  lead : String
  first : Nat
  last : Nat

/-- The code point with such a name. -/
def NumberedNames.find? (names : NumberedNames) (name : String) : Option Nat :=
  if name.startsWith names.lead then
    (List.range' names.first (names.last + 1 - names.first)).find? fun n =>
      names.lead ++ hexName n == name
  else none

/-- The characters that are named by their code points. -/
def numberedNames : List NumberedNames := [
  ⟨"CJK COMPATIBILITY IDEOGRAPH-", 0xF900, 0xFA6D⟩,
  ⟨"CJK COMPATIBILITY IDEOGRAPH-", 0xFA70, 0xFAD9⟩,
  ⟨"KHITAN SMALL SCRIPT CHARACTER-", 0x18B00, 0x18CD5⟩,
  ⟨"NUSHU CHARACTER-", 0x1B170, 0x1B2FB⟩,
  ⟨"CJK COMPATIBILITY IDEOGRAPH-", 0x2F800, 0x2FA1D⟩]

/-- The number of a variation selector by its short name. -/
def variationSelector? (name : String) : Option Nat :=
  ((List.range' 1 256).find? fun n => "VS" ++ toString n == name).map fun n =>
    if n ≤ 16 then 0xFE00 + n - 1 else 0xE0100 + n - 17

/-! ## Ideographs -/

/-- The first and last code points of the unified ideographs. -/
def ideographRanges : List (Nat × Nat) := [
  (0x3400, 0x4DBF), (0x4E00, 0x9FFF), (0x20000, 0x2A6DF), (0x2A700, 0x2B738), (0x2B740, 0x2B81D),
  (0x2B820, 0x2CEA1), (0x2CEB0, 0x2EBE0), (0x30000, 0x3134A)]

/-- The value of a capital hexadecimal digit. -/
def capitalDigit? (c : Char) : Option Nat :=
  if '0' ≤ c && c ≤ '9' then some (c.toNat - '0'.toNat)
  else if 'A' ≤ c && c ≤ 'F' then some (c.toNat - 'A'.toNat + 10)
  else none

/-- The code point of the unified ideograph with a name. It is written in four or five digits. -/
def ideograph? (name : String) : Option Nat := do
  let lead := "CJK UNIFIED IDEOGRAPH-".toList
  let digits := name.toList.drop lead.length
  if name.toList.take lead.length != lead then none
  else if digits.length != 4 && digits.length != 5 then none
  else
    let value := (← digits.mapM capitalDigit?).foldl (fun n digit => 16 * n + digit) 0
    if ideographRanges.any fun (first, last) => first ≤ value && value ≤ last then some value
    else none

/-! ## Hangul syllables -/

/-- The names of the letters that start a syllable. -/
def leadingJamo : List String :=
  ["G", "GG", "N", "D", "DD", "R", "M", "B", "BB", "S", "SS", "", "J", "JJ", "C", "K", "T", "P",
    "H"]

/-- The names of the vowels of a syllable. -/
def vowelJamo : List String :=
  ["A", "AE", "YA", "YAE", "EO", "E", "YEO", "YE", "O", "WA", "WAE", "OE", "YO", "U", "WEO", "WE",
    "WI", "YU", "EU", "YI", "I"]

/-- The names of what ends a syllable. -/
def trailingJamo : List String :=
  ["", "G", "GG", "GS", "N", "NJ", "NH", "D", "L", "LG", "LM", "LB", "LS", "LT", "LP", "LH", "M",
    "B", "BS", "S", "SS", "NG", "J", "C", "K", "T", "P", "H"]

/-- The longest of some names that a text starts with: its index, and the rest of the text. -/
def longestStart? (names : List String) (text : List Char) : Option (Nat × List Char) :=
  (names.zipIdx.foldl (fun best (name, index) =>
    let rest := text.drop name.length
    if text.take name.length != name.toList then best
    else
      match best with
      | some (_, shortest) => if rest.length < shortest.length then some (index, rest) else best
      | none => some (index, rest)) none)

/-- The code point of the Hangul syllable with a name. -/
def syllable? (name : String) : Option Nat := do
  let lead := "HANGUL SYLLABLE ".toList
  if name.toList.take lead.length != lead then none
  else
    let (leading, rest) ← longestStart? leadingJamo (name.toList.drop lead.length)
    let (vowel, rest) ← longestStart? vowelJamo rest
    let (trailing, rest) ← longestStart? trailingJamo rest
    if rest.isEmpty then
      some (0xAC00 + (leading * vowelJamo.length + vowel) * trailingJamo.length + trailing)
    else none

/-! ## All names -/

/-- The code point of the character with a name. -/
def codePointOfName? (name : String) : Option Nat :=
  let capitals := name.toUpper
  nameBlocks.findSome? (fun block => block.find? capitals)
    <|> furtherNames.lookup capitals
    <|> numberedNames.findSome? (fun names => names.find? capitals)
    <|> variationSelector? capitals
    <|> ideograph? name
    <|> syllable? name

end StoryCatalog

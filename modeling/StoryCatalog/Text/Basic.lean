/-!
# Text as a sequence of code points

Names read from source text may hold surrogate code points that no character type admits, because
an escape such as `\ud83d` denotes one. `Text` is therefore a list of code points, surrogates
included. A text without surrogates is exactly what a `String` holds, and `Text.toString?` reads
it back.
-/

namespace StoryCatalog

/-- A Unicode code point. Surrogates are code points. -/
abbrev CodePoint := Fin 0x110000

/-- A text: its code points in order. -/
abbrev Text := List CodePoint

namespace CodePoint

/-- There are code points, so a numeral denotes one. -/
instance instNeZero : @NeZero Nat Zero.ofOfNat0 0x110000 := ⟨by decide⟩

/-- The code point of a character. -/
def ofChar (c : Char) : CodePoint :=
  ⟨c.toNat, by
    have h := c.valid
    simp only [UInt32.isValidChar, Nat.isValidChar] at h
    have : c.toNat = c.val.toNat := rfl
    omega⟩

/-- The code point with this number, or `none` past the last plane. -/
def ofNat? (n : Nat) : Option CodePoint :=
  if h : n < 0x110000 then some ⟨n, h⟩ else none

/-- The surrogates are the code points that no character has. -/
def isSurrogate (c : CodePoint) : Bool :=
  0xD800 ≤ c.val && c.val ≤ 0xDFFF

/-- The character at this code point, unless it is a surrogate. -/
def toChar? (c : CodePoint) : Option Char :=
  if h : c.val.isValidChar then some (Char.ofNatAux c.val h) else none

/-- Newline, the only character that ends a line of source text. -/
def newline : CodePoint := 0x0A

/-- The blank between two words. -/
def space : CodePoint := 0x20

end CodePoint

namespace Text

/-- The code points of a string. -/
def ofString (s : String) : Text :=
  s.toList.map CodePoint.ofChar

/-- A string stands for its code points. -/
instance : Coe String Text := ⟨ofString⟩

/-- The text as a string, or `none` when it holds a surrogate. -/
def toString? (t : Text) : Option String :=
  (t.mapM CodePoint.toChar?).map String.ofList

/-- The text with every surrogate replaced by U+FFFD. -/
def toStringLossy (t : Text) : String :=
  String.ofList (t.map fun c => c.toChar?.getD (Char.ofNat 0xFFFD))

/-- No code point of the text is a surrogate. -/
def isScalar (t : Text) : Bool :=
  t.all fun c => !c.isSurrogate

/-- A natural number in decimal digits. -/
def ofNat (n : Nat) : Text :=
  (Nat.toDigits 10 n).map CodePoint.ofChar

/-- An integer in decimal digits, with a minus sign when it is negative. -/
def ofInt : Int → Text
  | .ofNat n => ofNat n
  | .negSucc n => CodePoint.ofChar '-' :: ofNat (n + 1)

/-- The most digits of an integer that is read from decimal digits or written in them. -/
def mostDigits : Nat := 4300

/-- What is said of an integer with more digits, and how many they are if they have been counted. -/
def tooManyDigits (count : Option Nat) : Text :=
  let counted : Text :=
    match count with
    | some digits => ": value has " ++ ofNat digits ++ " digits"
    | none => []
  "Exceeds the limit (" ++ ofNat mostDigits ++ " digits) for integer string conversion" ++ counted
    ++ "; use sys.set_int_max_str_digits() to increase the limit"

/-- The text moved to the right end of a field of this width. A longer text stays as it is. -/
def padLeft (width : Nat) (t : Text) : Text :=
  List.replicate (width - t.length) CodePoint.space ++ t

/-- The parts of a text between the separators in it. There is always at least one. -/
def split (separator : CodePoint) : Text → List Text
  | [] => [[]]
  | c :: rest =>
      if c = separator then [] :: split separator rest
      else
        match split separator rest with
        | [] => [[c]]
        | part :: more => (c :: part) :: more

/-- The parts of a text between its newlines. -/
def lines (t : Text) : List Text :=
  split CodePoint.newline t

/-- The parts one after another with a separator between each two. -/
def join (separator : Text) (parts : List Text) : Text :=
  List.intercalate separator parts

theorem join_singleton (separator part : Text) : join separator [part] = part :=
  List.intercalate_singleton

theorem join_cons_cons (separator first second : Text) (rest : List Text) :
    join separator (first :: second :: rest) =
      first ++ (separator ++ join separator (second :: rest)) := by
  rw [join, List.intercalate_cons_cons, List.append_assoc]
  rfl

/-- The lexicographic order of texts by code point. -/
def le : Text → Text → Bool
  | [], _ => true
  | _ :: _, [] => false
  | c :: rest, d :: more => c.val < d.val || (c == d && le rest more)

end Text

end StoryCatalog

import StoryCatalog.Schema.Issue

/-!
# Reading data by a schema

A checked value is either what a datum stands for or the issues that were found in it. Two checks
side by side give the issues of both. The readers are lenient: an integer may also be a truth value,
a floating-point number without a fraction, or its decimal text.
-/

namespace StoryCatalog

namespace Schema

/-- A value, or the issues that stand against it. -/
inductive Checked (α : Type) where
  | ok (value : α)
  | refused (issues : List Issue)

namespace Checked

variable {α β : Type}

/-- Apply a function to the value. -/
def map (f : α → β) : Checked α → Checked β
  | ok value => ok (f value)
  | refused issues => refused issues

/-- Apply a checked function to a checked value. The issues of both are kept. -/
def seq : Checked (α → β) → Checked α → Checked β
  | ok f, ok value => ok (f value)
  | ok _, refused issues => refused issues
  | refused issues, ok _ => refused issues
  | refused issues, refused more => refused (issues ++ more)

instance : Applicative Checked where
  pure := ok
  map := map
  seq f x := seq f (x ())

/-- The check of the part one step further in. -/
def under (step : Step) : Checked α → Checked α
  | ok value => ok value
  | refused issues => refused (issues.map fun issue => { issue with place := step :: issue.place })

/-- A complaint about the datum as a whole. -/
def complain (complaint : Complaint) : Checked α :=
  refused [⟨[], complaint⟩]

/-- Check the items of a list, the first of which has this index. -/
def items (check : Datum → Checked α) : Nat → List Datum → Checked (List α)
  | _, [] => ok []
  | index, item :: rest =>
      List.cons <$> under (.index index) (check item) <*> items check (index + 1) rest

/-- Check the data of a table. -/
def entries (check : Datum → Checked α) : List (Text × Datum) → Checked (List (Text × α))
  | [] => ok []
  | (name, value) :: rest =>
      (fun first more => (name, first) :: more) <$> under (.name name) (check value)
        <*> entries check rest

end Checked

open Checked

/-! ## Integers -/

/-- A blank around the text of an integer. -/
def isPadding (c : CodePoint) : Bool :=
  (0x09 ≤ c.val && c.val ≤ 0x0D) || c.val == 0x20 || c.val == 0x85 || c.val == 0xA0
    || c.val == 0x1680 || (0x2000 ≤ c.val && c.val ≤ 0x200A) || c.val == 0x2028 || c.val == 0x2029
    || c.val == 0x202F || c.val == 0x205F || c.val == 0x3000

/-- The text without the blanks around it. -/
def unpadded (t : Text) : Text :=
  ((t.dropWhile isPadding).reverse.dropWhile isPadding).reverse

/-- A decimal digit of ASCII. -/
def isDigit (c : CodePoint) : Bool :=
  0x30 ≤ c.val && c.val ≤ 0x39

/-- The text without a point and zeros at its end. -/
def withoutZeroFraction (t : Text) : Text :=
  let whole := t.takeWhile (· ≠ 0x2E)
  let fraction := t.drop (whole.length + 1)
  if !fraction.isEmpty && fraction.all (· = 0x30) then whole else t

/-- The text behind the zeros that lead it, which underscores may follow. The last zero stays when
only a point or nothing follows. -/
def withoutLeadingZeros? : Text → Option Text
  | 0x30 :: rest => behind 0x30 rest
  | c :: rest => if isDigit c || c = 0x2D then some (c :: rest) else none
  | [] => none
where
  /-- Go on behind this character. -/
  behind (last : CodePoint) : Text → Option Text
    | [] => some [last]
    | c :: rest =>
        if c = 0x30 || c = 0x5F then behind c rest
        else if c = 0x2E then some (last :: c :: rest)
        else if isDigit c || c = 0x2D then some (c :: rest)
        else none

/-- No two underscores follow each other. -/
def hasNoDoubleUnderscore : Text → Bool
  | 0x5F :: 0x5F :: _ => false
  | _ :: rest => hasNoDoubleUnderscore rest
  | [] => true

/-- The text without the underscores in it, if there are only single ones and none at either end. -/
def withoutUnderscores (t : Text) : Text :=
  if t.head? ≠ some 0x5F && t.getLast? ≠ some 0x5F && hasNoDoubleUnderscore t then
    t.filter (· ≠ 0x5F)
  else t

/-- The text of an integer in its plain form: blanks around it, a plus sign, leading zeros, a
fraction of zeros and underscores are taken away. -/
def plainInteger? (t : Text) : Option Text := do
  let unsigned ←
    match unpadded t with
    | 0x2B :: 0x2D :: _ => none
    | 0x2B :: rest => some rest
    | rest => some rest
  let digits ← withoutLeadingZeros? unsigned
  return withoutUnderscores (withoutZeroFraction digits)

/-- The integer that a text in plain form writes: a minus sign and digits without a leading zero.
Too many digits are found before anything behind them. -/
def integerOfPlain (t : Text) : Checked Int :=
  let (negative, body) :=
    match t with
    | 0x2D :: rest => (true, rest)
    | rest => (false, rest)
  let digits := body.takeWhile isDigit
  let size : Nat := digits.foldl (fun (n : Nat) c => 10 * n + (c.val - 0x30)) 0
  if digits.isEmpty || (digits.head? = some 0x30 && 1 < digits.length) then complain .integerText
  else if Text.mostDigits < digits.length then complain .integerSize
  else if digits.length < body.length then complain .integerText
  else ok (if negative then -(size : Int) else size)

/-- The integer that a text writes, as it stands or in its plain form. -/
def integerOfText (t : Text) : Checked Int :=
  let digits := (if t.head? = some 0x2D then t.drop 1 else t).takeWhile isDigit
  if digits.head? ≠ some 0x30 && Text.mostDigits < digits.length then complain .integerSize
  else
    match plainInteger? t with
    | some plain => integerOfPlain plain
    | none => complain .integerText

/-- The integer that a floating-point number is. -/
def integerOfReal (value : Binary64) : Checked Int :=
  match value.toInt? with
  | none => complain .integerFraction
  | some n => if fitsSignedWord n && fitsSignedWord (-n) then ok n else complain .integerSize

/-- An integer. -/
def integer : Datum → Checked Int
  | .integer n => ok n
  | .bool b => ok (if b then 1 else 0)
  | .real value => integerOfReal value
  | .text t => integerOfText t
  | _ => complain .notInteger

/-- An integer or nothing. -/
def optionalInteger : Datum → Checked (Option Int)
  | .null => ok none
  | value => some <$> integer value

/-! ## Texts, truth values and choices -/

/-- A text. -/
def text : Datum → Checked Text
  | .text t => ok t
  | _ => complain .notText

/-- A text that is not empty. -/
def nonEmptyText : Datum → Checked Text
  | .text t => if t.isEmpty then complain .tooShort else ok t
  | _ => complain .notText

/-- A capital letter of ASCII as a small one. -/
def asciiLower (c : CodePoint) : CodePoint :=
  if 0x41 ≤ c.val && c.val ≤ 0x5A then c + 0x20 else c

/-- The words that stand for true. -/
def trueWords : List Text := ["1", "on", "t", "true", "y", "yes"].map Text.ofString

/-- The words that stand for false. -/
def falseWords : List Text := ["0", "off", "f", "false", "n", "no"].map Text.ofString

/-- The truth value of a number. -/
def boolOfInteger (n : Int) : Checked Bool :=
  if n = 0 then ok false else if n = 1 then ok true else complain .boolText

/-- A truth value. -/
def bool : Datum → Checked Bool
  | .bool b => ok b
  | .text t =>
      let word := t.map asciiLower
      if trueWords.contains word then ok true
      else if falseWords.contains word then ok false
      else complain .boolText
  | .integer n =>
      if fitsSignedWord n then boolOfInteger n else complain .notBool
  | .real value =>
      match integerOfReal value with
      | .ok n => boolOfInteger n
      | .refused _ => complain .notBool
  | _ => complain .notBool

/-- One of some words. -/
def choice (choices : List String) : Datum → Checked String
  | .text t =>
      match choices.find? fun word => Text.ofString word == t with
      | some word => ok word
      | none => complain (.noChoice choices)
  | _ => complain (.noChoice choices)

/-! ## Lists, tables and records -/

/-- A list of things that a check accepts. -/
def list {α : Type} (check : Datum → Checked α) : Datum → Checked (List α)
  | .list data => items check 0 data
  | _ => complain .notList

/-- A table of things that a check accepts. -/
def table {α : Type} (check : Datum → Checked α) : Datum → Checked (List (Text × α))
  | .table data => entries check data
  | _ => complain .notTable

/-- The entries of a record. -/
def record {α : Type} (model : String) (check : List (Text × Datum) → Checked α) :
    Datum → Checked α
  | .table data => check data
  | _ => complain (.notRecord model)

/-- A field that must be there. -/
def required {α : Type} (data : List (Text × Datum)) (name : Text) (check : Datum → Checked α) :
    Checked α :=
  under (.name name) <|
    match Datum.get? name data with
    | some value => check value
    | none => complain .missing

/-- A field with a value for when it is not there. -/
def optional {α : Type} (data : List (Text × Datum)) (name : Text) (default : α)
    (check : Datum → Checked α) : Checked α :=
  match Datum.get? name data with
  | some value => under (.name name) (check value)
  | none => ok default

/-- No field but the known ones. -/
def noExtra (known : List Text) : List (Text × Datum) → Checked Unit
  | [] => ok ()
  | (name, _) :: rest =>
      if known.contains name then noExtra known rest
      else
        (fun _ _ => ()) <$> under (.name name) (complain .extra : Checked Unit)
          <*> noExtra known rest

end Schema

end StoryCatalog

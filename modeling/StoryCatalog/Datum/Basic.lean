import StoryCatalog.Number.Shortest
import StoryCatalog.Text.Quoted

/-!
# Data

A datum is what a line of an artifact or a file of settings holds: nothing, a truth value, a number,
a text, a moment, a list, or a table from names to data. Only settings hold moments.
-/

namespace StoryCatalog

/-- The integer fits into 64 bits with a sign. -/
def fitsSignedWord (n : Int) : Bool :=
  -0x8000000000000000 ≤ n && n < 0x8000000000000000

/-- The integer fits into 64 bits, with or without a sign. -/
def fitsWord (n : Int) : Bool :=
  -0x8000000000000000 ≤ n && n < 0x10000000000000000

/-- A day of the calendar. -/
structure Day where
  year : Nat
  month : Nat
  day : Nat
deriving DecidableEq, Repr

/-- A time of a day. -/
structure Clock where
  hour : Nat
  minute : Nat
  second : Nat
  microsecond : Nat
deriving DecidableEq, Repr

/-- A day, a time of a day, or both, then with or without the minutes by which the clock is ahead of
universal time. -/
inductive Moment where
  | day (day : Day)
  | clock (clock : Clock)
  | dayClock (day : Day) (clock : Clock) (offset : Option Int)
deriving DecidableEq, Repr

namespace Moment

/-- The parts of a clock that a message shows: seconds and their fractions only from the last one
that is not zero. -/
def clockParts (clock : Clock) : List Nat :=
  if clock.microsecond ≠ 0 then [clock.hour, clock.minute, clock.second, clock.microsecond]
  else if clock.second ≠ 0 then [clock.hour, clock.minute, clock.second]
  else [clock.hour, clock.minute]

/-- An offset from universal time in a message. -/
def offsetQuoted (minutes : Int) : String :=
  if minutes = 0 then "datetime.timezone.utc"
  else if minutes < 0 then
    "datetime.timezone(datetime.timedelta(days=-1, seconds=" ++ toString (86400 + 60 * minutes)
      ++ "))"
  else "datetime.timezone(datetime.timedelta(seconds=" ++ toString (60 * minutes) ++ "))"

/-- Numbers with commas between them. -/
def listed (numbers : List Nat) : String :=
  ", ".intercalate (numbers.map toString)

/-- A moment in a message. -/
def quoted : Moment → String
  | .day d => "datetime.date(" ++ listed [d.year, d.month, d.day] ++ ")"
  | .clock c => "datetime.time(" ++ listed (clockParts c) ++ ")"
  | .dayClock d c offset =>
      "datetime.datetime(" ++ listed ([d.year, d.month, d.day] ++ clockParts c)
        ++ (match offset with
          | none => ""
          | some minutes => ", tzinfo=" ++ offsetQuoted minutes) ++ ")"

end Moment

/-- A datum. The names of a table are all different. -/
inductive Datum where
  | null
  | bool (value : Bool)
  | integer (value : Int)
  | real (value : Binary64)
  | text (value : Text)
  | moment (value : Moment)
  | list (items : List Datum)
  | table (entries : List (Text × Datum))

namespace Datum

/-- A datum in a message. -/
def quoted : Datum → Text
  | null => "None"
  | bool value => if value then "True" else "False"
  | integer value => Text.ofInt value
  | real value => value.render Binary64.messageFormat
  | text value => value.quoted
  | moment value => value.quoted
  | list items => "[" ++ Text.join ", " (quotedItems items) ++ "]"
  | table entries => "\x7b" ++ Text.join ", " (quotedEntries entries) ++ "\x7d"
where
  /-- The items of a list in a message. -/
  quotedItems : List Datum → List Text
    | [] => []
    | item :: rest => quoted item :: quotedItems rest
  /-- The entries of a table in a message. -/
  quotedEntries : List (Text × Datum) → List Text
    | [] => []
    | (name, value) :: rest => (name.quoted ++ ": " ++ quoted value) :: quotedEntries rest

/-- How many calls within each other the reading or the showing of a datum may take. -/
def mostCalls : Nat := 990

/-- What is said when there are more of them. -/
def tooDeep : Text := "maximum recursion depth exceeded"

/-- Why a message cannot show a datum: values in it stand too deep within each other, or an integer
in it has too many digits. -/
inductive Unquotable where
  | tooDeep
  | tooManyDigits
deriving DecidableEq, Repr

/-- The first reason why a message cannot show a datum, when there may be this many values within
each other. -/
def unquotable? : Nat → Datum → Option Unquotable
  | 0, _ => some .tooDeep
  | _ + 1, integer value =>
      if value.natAbs < Nat.pow 10 Text.mostDigits then none else some .tooManyDigits
  | calls + 1, list items => items.findSome? (unquotable? calls)
  | calls + 1, table entries => entries.findSome? fun entry => unquotable? calls entry.2
  | _ + 1, _ => none

/-- The datum under a name. -/
def get? (name : Text) : List (Text × Datum) → Option Datum
  | [] => none
  | (key, value) :: rest => if key == name then some value else get? name rest

/-- Put a datum under a name: in the place of the one that is there, or else at the end. -/
def put (name : Text) (value : Datum) : List (Text × Datum) → List (Text × Datum)
  | [] => [(name, value)]
  | (key, old) :: rest =>
      if key == name then (key, value) :: rest else (key, old) :: put name value rest

end Datum

end StoryCatalog

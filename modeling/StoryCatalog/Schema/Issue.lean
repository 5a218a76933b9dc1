import StoryCatalog.Datum.Basic

/-!
# Faults of data against a schema

An issue says what is wrong with a part of a datum and where the part is: the names and indices on
the way to it. A report lists all issues of a datum, in the order in which they were found.
-/

namespace StoryCatalog

namespace Schema

/-- What can be wrong with a part of a datum. -/
inductive Complaint where
  | extra
  | missing
  | notText
  | tooShort
  | notList
  | notTable
  | notRecord (model : String)
  | notInteger
  | integerText
  | integerFraction
  | integerSize
  | notBool
  | boolText
  | noChoice (choices : List String)
  | value (message : Text)
deriving DecidableEq, Repr

/-- The complaint in words. -/
def Complaint.message : Complaint → Text
  | extra => "Extra inputs are not permitted"
  | missing => "Field required"
  | notText => "Input should be a valid string"
  | tooShort => "String should have at least 1 character"
  | notList => "Input should be a valid list"
  | notTable => "Input should be a valid dictionary"
  | notRecord model => "Input should be a valid dictionary or instance of " ++ model
  | notInteger => "Input should be a valid integer"
  | integerText => "Input should be a valid integer, unable to parse string as an integer"
  | integerFraction => "Input should be a valid integer, got a number with a fractional part"
  | integerSize => "Unable to parse input string as an integer, exceeded maximum size"
  | notBool => "Input should be a valid boolean"
  | boolText => "Input should be a valid boolean, unable to interpret input"
  | noChoice choices =>
      "Input should be " ++ " or ".intercalate (choices.map fun choice => "'" ++ choice ++ "'")
  | value message => "Value error, " ++ message

/-- The short name of the complaint. -/
def Complaint.code : Complaint → String
  | extra => "extra_forbidden"
  | missing => "missing"
  | notText => "string_type"
  | tooShort => "string_too_short"
  | notList => "list_type"
  | notTable => "dict_type"
  | notRecord _ => "model_type"
  | notInteger => "int_type"
  | integerText => "int_parsing"
  | integerFraction => "int_from_float"
  | integerSize => "int_parsing_size"
  | notBool => "bool_type"
  | boolText => "bool_parsing"
  | noChoice _ => "literal_error"
  | value _ => "value_error"

/-- A step into a datum: to an entry of a table or to an item of a list. -/
inductive Step where
  | name (name : Text)
  | index (index : Nat)
deriving DecidableEq, Repr

/-- A step in a report. A name with a point in it stands between backquotes. -/
def Step.text : Step → Text
  | .name t => if t.contains 0x2E then 0x60 :: t ++ [0x60] else t
  | .index n => Text.ofNat n

/-- A complaint about the part of a datum at a place. -/
structure Issue where
  place : List Step
  complaint : Complaint
deriving DecidableEq, Repr

/-- The lines of a report about one issue. The datum as a whole has no line for its place. -/
def Issue.lines (issue : Issue) : List Text :=
  let line : Text := "  " ++ issue.complaint.message ++ " [type=" ++ issue.complaint.code ++ "]"
  if issue.place.isEmpty then [line] else [Text.join "." (issue.place.map Step.text), line]

/-- The report on a datum that does not fit a model. -/
def report (model : String) (issues : List Issue) : Text :=
  let count : Text :=
    Text.ofNat issues.length
      ++ (if issues.length = 1 then " validation error for " else " validation errors for ")
      ++ model
  Text.join [CodePoint.newline] (count :: issues.flatMap Issue.lines)

end Schema

end StoryCatalog

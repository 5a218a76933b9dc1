import StoryCatalog.Location.Basic

/-!
# Errors in source text
-/

namespace StoryCatalog

/-- Why a source text cannot be read, and where. -/
structure ParseError where
  message : Text
  line : Int
  column : Int
deriving DecidableEq, Repr

/-- An error at a position. -/
def ParseError.at (position : Position) (message : Text) : ParseError :=
  ⟨message, position.line, position.column⟩

/-- The number that a reader gives, or one if it gives none or zero. -/
def ParseError.numberOrOne : Option Int → Int
  | none | some 0 => 1
  | some n => n

/-- An error as a reader reports it, with the numbers that it knows. -/
def ParseError.ofReport (message : Text) (line column : Option Int) : ParseError :=
  ⟨message, numberOrOne line, numberOrOne column⟩

end StoryCatalog

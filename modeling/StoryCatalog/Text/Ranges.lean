import StoryCatalog.Text.Basic

/-!
# Sets of code points by their boundaries

A property of code points is kept as the ascending list of the code points at which it changes. It
holds of a code point exactly when an odd number of boundaries lie at or below it.
-/

namespace StoryCatalog

/-- The ascending code points at which a property starts or stops to hold. -/
abbrev Boundaries := Array Nat

/-- The property holds past an odd number of boundaries. -/
def Boundaries.contains (boundaries : Boundaries) (n : Nat) : Bool :=
  boundaries.foldl (fun inside boundary => if boundary ≤ n then !inside else inside) false

end StoryCatalog

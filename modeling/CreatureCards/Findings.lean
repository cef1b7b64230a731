import CreatureCards.Failure

/-!
# Findings

What checking card data comes to: errors, which make the data invalid, and
warnings, which do not.
-/

namespace CreatureCards

/-- Errors and warnings about card data. -/
structure Findings where
  errors : List String := []
  warnings : List String := []
  deriving DecidableEq, Repr

namespace Findings

def fault (path reason : String) : Findings :=
  { errors := [path ++ ": " ++ reason] }

def notice (path reason : String) : Findings :=
  { warnings := [path ++ ": " ++ reason] }

instance : Append Findings where
  append first second :=
    { errors := first.errors ++ second.errors, warnings := first.warnings ++ second.warnings }

def none : Findings := {}

def concat (findings : List Findings) : Findings :=
  findings.foldl (· ++ ·) none

def isValid (findings : Findings) : Bool :=
  findings.errors.isEmpty

end Findings

end CreatureCards

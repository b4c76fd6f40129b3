import Predictive.Token

/-!
# Configuration of an analysis
-/

namespace Predictive

/-- How a grammar text is read and which stages its analysis goes through. -/
structure Config where
  lexing : Lexing := .compact
  /-- The greatest number of left factoring passes. -/
  factorPasses : Nat := 1
  eliminateLeftRecursion : Bool := true
deriving DecidableEq

end Predictive

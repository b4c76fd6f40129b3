/-!
# Runs of code points

Tables list code points as runs: the first code point, the last, and the step from one to the next.
-/

namespace Predictive.Text

/-- A run of code points at equal distances. -/
structure CodeRun where
  first : Nat
  last : Nat
  step : Nat

namespace CodeRun

def has (r : CodeRun) (code : Nat) : Bool :=
  r.first ≤ code && code ≤ r.last && (code - r.first) % r.step == 0

end CodeRun

end Predictive.Text

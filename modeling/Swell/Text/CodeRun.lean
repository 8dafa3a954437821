/-!
# Runs of code points

The tables of this library list code points as runs: an arithmetic progression of numbers, which
is an interval when its step is one.
-/
namespace Swell.Text

/-- The numbers `first`, `first + step`, … up to `last`. -/
structure CodeRun where
  first : Nat
  last : Nat
  step : Nat
  deriving DecidableEq

namespace CodeRun

def contains (r : CodeRun) (n : Nat) : Bool :=
  r.first ≤ n && n ≤ r.last && (n - r.first) % r.step == 0

end CodeRun
end Swell.Text

import Swell.Level
import Swell.Scalar

/-!
# Series and signals

A wave is a series of samples. Its coarse signal gives each sample a level.
-/
namespace Swell

structure Series (α : Type) where
  x : List α
  y : List α

/-- The positions of samples and their levels. -/
structure CoarseSignal where
  x : List Int
  y : List Level

inductive SignalFault (α : Type) where
  | unequalLengths (xs ys : Nat)
  | tooFewPoints (points : Nat)
  | notFinite
  /-- The value at an index does not exceed the one before it. -/
  | notIncreasing (index : Nat) (value previous : α)
  | gridTooLarge (span step : α)
  | tooManyBounds

/-- The greatest number of points that a series is resampled to. -/
def gridLimit : Nat := 1000000

namespace SignalFault

def message : SignalFault Float → String
  | .unequalLengths xs ys =>
    "series has " ++ toString xs ++ " x values but " ++ toString ys ++ " y values"
  | .tooFewPoints points => "series needs at least 2 points, got " ++ toString points
  | .notFinite => "series contains a non-finite value"
  | .notIncreasing index value previous =>
    "x must be strictly increasing, but x[" ++ toString index ++ "] = " ++ Decimal.prose value
      ++ " follows " ++ Decimal.prose previous
  | .gridTooLarge span step =>
    "resampling a span of " ++ Decimal.prose span ++ " at step " ++ Decimal.prose step
      ++ " needs more than " ++ toString gridLimit ++ " points"
  | .tooManyBounds => "too many breakpoints to express as levels"

end SignalFault
end Swell

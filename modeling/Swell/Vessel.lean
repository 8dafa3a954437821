import Swell.Scalar

/-!
# Vessels and what they can take

A vessel takes no wave higher than it is wide, and no trough deeper. Under sail alone it stalls
when more than two high waves meet it within five times its length; with the motor on there is no
such limit.
-/
namespace Swell

structure Vessel where
  length : Float
  width : Float
  motor : Bool
  sail : Bool
  berth : Float

/-- How many high waves are tolerated within how many words. A negative number lifts the limit. -/
structure Chop where
  tolerated : Int
  window : Int
  deriving Repr, DecidableEq

namespace Chop

def unlimited : Chop :=
  ⟨-1, -1⟩

def isUnlimited (c : Chop) : Bool :=
  c.tolerated < 0 || c.window < 0

end Chop

structure Limits where
  peak : Float
  trough : Float
  chop : Chop

namespace Limits

/-- The limits of no vessel in particular: anything goes. -/
def none : Limits :=
  ⟨Decimal.infinity, Decimal.infinity, .unlimited⟩

end Limits

structure BadDimension where
  name : String
  value : Float

namespace BadDimension

def message (f : BadDimension) : String :=
  "vessel " ++ f.name ++ " must be a positive number, got " ++ Decimal.prose f.value

end BadDimension

namespace Vessel

/-- The high waves that a vessel under sail tolerates within one window. -/
def toleratedWaves : Int := 2

def widestWindow : Nat := Nat.pow 2 63 - 1

/-- The words in the window of a vessel under sail: five times its length, to the nearest whole. -/
def window (v : Vessel) : Int :=
  Int.ofNat (min (Decimal.nearestWhole (5.0 * v.length)) widestWindow)

def limits (v : Vessel) : Except BadDimension Limits :=
  if !Scalar.isPositive v.length then .error ⟨"length", v.length⟩
  else if !Scalar.isPositive v.width then .error ⟨"width", v.width⟩
  else
    .ok ⟨v.width, v.width, if v.motor then .unlimited else ⟨toleratedWaves, v.window⟩⟩

theorem window_nonneg (v : Vessel) : 0 ≤ v.window :=
  Int.natCast_nonneg _

end Vessel
end Swell

import Swell.Decimal.Layout

/-!
# Scalars

What the treatment of a signal needs of its numbers. Programs run on floating-point numbers;
statements about exact arithmetic are about rational ones.
-/
namespace Swell

class Scalar (α : Type) extends Add α, Sub α, Mul α, Div α where
  ofNat : Nat → α
  /-- The billionth part of one. -/
  billionth : α
  lt : α → α → Bool
  le : α → α → Bool
  /-- The same place in the total order that a search goes by. -/
  same : α → α → Bool
  /-- An earlier place in that order. -/
  precedes : α → α → Bool
  isFinite : α → Bool
  /-- The greatest whole number that is not greater. -/
  floor : α → α
  /-- The whole number of a value that is whole; zero for negative values. -/
  toNat : α → Nat

namespace Scalar

/-- The order of floating-point numbers in which the negative zero stands before the positive one
and every other number at its place; not-a-numbers stand outside the infinities. -/
def floatKey (x : Float) : Int :=
  let bits := x.toBits.toNat
  let signBit := Nat.pow 2 63
  if bits < signBit then Int.ofNat bits else Int.ofNat signBit - 1 - Int.ofNat bits

instance : Scalar Float where
  ofNat := Float.ofNat
  billionth := 1e-9
  lt x y := x < y
  le x y := x ≤ y
  same x y := floatKey x == floatKey y
  precedes x y := floatKey x < floatKey y
  isFinite := Float.isFinite
  floor := Float.floor
  toNat x := x.toUInt64.toNat

instance : Scalar Rat where
  ofNat n := n
  billionth := 1 / 1000000000
  lt x y := x < y
  le x y := x ≤ y
  same x y := x == y
  precedes x y := x < y
  isFinite _ := true
  floor x := x.floor
  toNat x := x.floor.toNat

/-- The value is finite and greater than zero. -/
def isPositive {α : Type} [Scalar α] (x : α) : Bool :=
  isFinite x && lt (ofNat 0) x

end Scalar
end Swell

/-!
# Binary numbers of 64 bits

A finite floating-point number is a whole number times a power of two. Main statement: the whole
number nearest to a value lies within one half of it.
-/
namespace Swell.Decimal

/-- The magnitude `mantissa * 2 ^ exponent`. `narrowBelow` marks the smallest mantissa of a power
of two: its neighbour below is half as far away as its neighbour above. -/
structure Binary where
  mantissa : Nat
  exponent : Int
  narrowBelow : Bool

namespace Binary

def ofFloat (x : Float) : Binary :=
  let bits := x.toBits.toNat
  let fraction := bits % Nat.pow 2 52
  let field := bits / Nat.pow 2 52 % Nat.pow 2 11
  if field = 0 then ⟨fraction, -1074, false⟩
  else ⟨Nat.pow 2 52 + fraction, Int.ofNat field - 1075, fraction == 0 && 1 < field⟩

def quotient (b : Binary) : Nat × Nat :=
  (b.mantissa * Nat.pow 2 b.exponent.toNat, Nat.pow 2 (-b.exponent).toNat)

end Binary

def isNegative (x : Float) : Bool :=
  x.toBits.toNat / Nat.pow 2 63 == 1

def infinity : Float :=
  1.0 / 0.0

/-- The whole number nearest to a quotient; a half goes up. -/
def nearest (num den : Nat) : Nat :=
  (2 * num + den) / (2 * den)

theorem nearest_within_half (num den : Nat) (h : 0 < den) :
    2 * (nearest num den * den) ≤ 2 * num + den ∧ 2 * num < 2 * (nearest num den * den) + den := by
  have hd := Nat.div_add_mod (2 * num + den) (2 * den)
  have hm := Nat.mod_lt (2 * num + den) (show 0 < 2 * den by omega)
  have e : 2 * den * ((2 * num + den) / (2 * den)) = 2 * (nearest num den * den) := by
    rw [nearest, Nat.mul_comm ((2 * num + den) / (2 * den)) den, Nat.mul_assoc]
  rw [e] at hd
  omega

def nearestWhole (x : Float) : Nat :=
  nearest (Binary.ofFloat x).quotient.1 (Binary.ofFloat x).quotient.2

end Swell.Decimal

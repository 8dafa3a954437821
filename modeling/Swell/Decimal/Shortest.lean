import Swell.Decimal.Binary

/-!
# Shortest decimals

The decimal for a binary number has as few digits as read back to that number, and among those it
is the nearest; of two equally near ones it is the upper. It is looked for on the grids of one
digit, two digits, and so on.
-/
namespace Swell.Decimal

/-- The value `digits * 10 ^ exponent`. -/
structure Scientific where
  digits : Nat
  exponent : Int
  deriving Repr, DecidableEq

/-- A positive quotient, and how far around it numbers read back to the same binary number, all
three over one denominator. -/
private structure Target where
  value : Nat
  below : Nat
  above : Nat
  den : Nat
  /-- The two ends read back as well. -/
  closed : Bool

private def Target.ofBinary (b : Binary) : Target :=
  let up := Nat.pow 2 b.exponent.toNat
  ⟨4 * b.mantissa * up, (if b.narrowBelow then 1 else 2) * up, 2 * up,
    4 * Nat.pow 2 (-b.exponent).toNat, b.mantissa % 2 == 0⟩

private def Target.scale (t : Target) (exponent : Int) : Target :=
  let up := Nat.pow 10 (-exponent).toNat
  ⟨t.value * up, t.below * up, t.above * up, t.den * Nat.pow 10 exponent.toNat, t.closed⟩

private def Target.admits (t : Target) (n : Nat) : Bool :=
  let x := n * t.den
  if t.closed then t.value ≤ x + t.below && x ≤ t.value + t.above
  else t.value < x + t.below && x < t.value + t.above

private def Target.choose? (t : Target) : Option Nat :=
  let low := t.value / t.den
  match t.admits low, t.admits (low + 1) with
  | true, true => if 2 * t.value < (2 * low + 1) * t.den then some low else some (low + 1)
  | true, false => some low
  | false, true => some (low + 1)
  | false, false => none

private def search (t : Target) : Nat → Int → Scientific
  | 0, exponent => ⟨(t.scale exponent).value / (t.scale exponent).den, exponent⟩
  | fuel + 1, exponent =>
    match (t.scale exponent).choose? with
    | some digits => ⟨digits, exponent⟩
    | none => search t fuel (exponent - 1)

/-- A grid that is no finer than the one of the leading digit: the number of binary digits times
the logarithm of two, rounded up. -/
private def coarseGrid (b : Binary) : Int :=
  (b.exponent + b.mantissa.log2 + 1) * 1233 / 4096 + 1

private def trim : Nat → Scientific → Scientific
  | 0, s => s
  | fuel + 1, s =>
    if s.digits % 10 = 0 then trim fuel ⟨s.digits / 10, s.exponent + 1⟩ else s

/-- The shortest decimal for a positive binary number. Seventeen digits always read back, and the
first grid is at most two above the leading digit. -/
def shortest (b : Binary) : Scientific :=
  if b.mantissa = 0 then ⟨0, 0⟩
  else trim 20 (search (Target.ofBinary b) 20 (coarseGrid b))

end Swell.Decimal

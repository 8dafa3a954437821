import Swell.Text.Digit

/-!
# Reading decimals

A decimal is an optional sign, digits with a point before, between or behind them, and an optional
power of ten. Its value is the binary number nearest to it.
-/
namespace Swell.Decimal

/-- The sign in front of a number, and the rest. A number without a sign is not negative. -/
def readSign : List Char → Bool × List Char
  | '+' :: cs => (false, cs)
  | '-' :: cs => (true, cs)
  | cs => (false, cs)

private def readPower? : List Char → Option Int
  | [] => some 0
  | mark :: cs =>
    let (negative, digits) := readSign cs
    if (mark == 'e' || mark == 'E') && !digits.isEmpty && digits.all Char.isDigit then
      let power := Int.ofNat (Text.decimalValue digits)
      some (if negative then -power else power)
    else none

/-- Powers of ten beyond which every number with digits is infinite, or zero. -/
private def powerLimit : Int := 400

/-- The number nearest to `digits * 10 ^ exponent`. -/
private def nearestTo (digits : List Char) (exponent : Int) : Float :=
  let value := Text.decimalValue digits
  let leading := exponent + (toString value).length
  if value = 0 || leading < -powerLimit then 0.0
  else if powerLimit < leading then 1.0 / 0.0
  else Float.ofScientific value (exponent < 0) exponent.natAbs

def read? (cs : List Char) : Option Float := do
  let (negative, cs) := readSign cs
  let whole := cs.takeWhile Char.isDigit
  let rest := cs.dropWhile Char.isDigit
  let (fraction, rest) := match rest with
    | '.' :: rest => (rest.takeWhile Char.isDigit, rest.dropWhile Char.isDigit)
    | rest => ([], rest)
  if whole.isEmpty && fraction.isEmpty then none
  let power ← readPower? rest
  let magnitude := nearestTo (whole ++ fraction) (power - fraction.length)
  return if negative then -magnitude else magnitude

end Swell.Decimal

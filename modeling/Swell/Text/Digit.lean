/-!
# Digits

The values of digits, and of numbers written with them.
-/
namespace Swell.Text

def digitValue (c : Char) : Nat :=
  c.toNat - '0'.toNat

/-- The value of digits in a base, the first digit first. -/
def valueOf (base : Nat) (digits : List Nat) : Nat :=
  digits.foldl (fun n d => n * base + d) 0

def decimalValue (digits : List Char) : Nat :=
  valueOf 10 (digits.map digitValue)

def hexValue? (c : Char) : Option Nat :=
  if c.isDigit then some (digitValue c)
  else if 'a' ≤ c && c ≤ 'f' then some (c.toNat - 'a'.toNat + 10)
  else if 'A' ≤ c && c ≤ 'F' then some (c.toNat - 'A'.toNat + 10)
  else none

def hexadecimalValue? (digits : List Char) : Option Nat :=
  (digits.mapM hexValue?).map (valueOf 16)

def charOf? (n : Nat) : Option Char :=
  if n.isValidChar then some (Char.ofNat n) else none

end Swell.Text

import Swell.Text.Digit

/-!
# Levels and their symbols

A level is the coarse height of one sample: zero is flat, positive levels are peaks and negative
ones troughs. Its symbol is the word that stands for it in a sentence. Main statement: the symbol
of a level that has an opposite is read back as that level.
-/
namespace Swell

abbrev Level := Int8

namespace Level

/-- The word for a level: `F`, or `P` or `T` with the distance from flat. -/
def symbol (l : Level) : String :=
  if l.toInt = 0 then "F"
  else (if 0 < l.toInt then "P" else "T") ++ toString l.toInt.natAbs

/-- A distance from flat: decimal digits, which a plus sign may precede, for 1 to 127. -/
def readDistance? (cs : List Char) : Option Nat :=
  let digits := match cs with
    | '+' :: rest => rest
    | cs => cs
  let n := Text.decimalValue digits
  if !digits.isEmpty && digits.all Char.isDigit && 1 ≤ n && n ≤ 127 then some n else none

def ofSymbol? (word : String) : Option Level :=
  match word.toList with
  | ['F'] => some 0
  | 'P' :: cs => (readDistance? cs).map fun n => Int8.ofNat n
  | 'T' :: cs => (readDistance? cs).map fun n => -Int8.ofNat n
  | _ => none

theorem ofSymbol?_symbol_of_small :
    ∀ n : Nat, n < 128 → ofSymbol? (symbol (Int8.ofNat n)) = some (Int8.ofNat n) ∧
      ofSymbol? (symbol (-Int8.ofNat n)) = some (-Int8.ofNat n) := by
  decide +kernel

end Level
end Swell

import Swell.Decimal.Shortest

/-!
# Layouts of numbers

Two ways of writing a floating-point number with its shortest digits. In a sentence it is written
out in full; in a listing it always shows that it is no whole number, and goes over to powers of
ten where zeros would pile up.
-/
namespace Swell.Decimal

structure Layout where
  /-- Whole numbers get a point and a zero. -/
  keepsPoint : Bool
  /-- The leading digit's powers of ten for which the number is written out, if not for all. -/
  writtenOut : Option (Int × Int)

/-- The layout of numbers in sentences: always written out. -/
def Layout.prose : Layout := ⟨false, none⟩

/-- The layout of numbers in listings: written out from 0.0001 to below 10^16. -/
def Layout.listing : Layout := ⟨true, some (-4, 15)⟩

private def zeros (n : Nat) : String :=
  String.ofList (List.replicate n '0')

private def writeOut (keepsPoint : Bool) (s : Scientific) : String :=
  let digits := toString s.digits
  match s.exponent with
  | .ofNat n => digits ++ zeros n ++ (if keepsPoint then ".0" else "")
  | .negSucc n =>
    let places := n + 1
    let padded := zeros (places + 1 - digits.length) ++ digits
    let whole := padded.length - places
    String.ofList (padded.toList.take whole) ++ "." ++ String.ofList (padded.toList.drop whole)

private def writePower (s : Scientific) : String :=
  let digits := (toString s.digits).toList
  let fraction := digits.drop 1
  String.ofList (digits.take 1)
    ++ (if fraction.isEmpty then "" else "." ++ String.ofList fraction)
    ++ "e" ++ toString (s.exponent + fraction.length)

private def writeMagnitude (l : Layout) (s : Scientific) : String :=
  let leading := s.exponent + ((toString s.digits).length - 1 : Nat)
  match l.writtenOut with
  | none => writeOut l.keepsPoint s
  | some (low, high) =>
    if s.digits = 0 || (low ≤ leading && leading ≤ high) then writeOut l.keepsPoint s
    else writePower s

/-- Writes a number. A zero keeps its sign. -/
def Layout.write (l : Layout) (x : Float) : String :=
  if x.isNaN then "NaN"
  else
    let sign := if isNegative x then "-" else ""
    if x.isInf then sign ++ "inf" else sign ++ writeMagnitude l (shortest (Binary.ofFloat x))

def prose (x : Float) : String :=
  Layout.prose.write x

def listed (x : Float) : String :=
  Layout.listing.write x

def listing (xs : List Float) : String :=
  "[" ++ ", ".intercalate (xs.map listed) ++ "]"

end Swell.Decimal

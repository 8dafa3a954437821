import Swell.Decimal.Reader
import Swell.Decimal.Binary
import Swell.Yaml.Tree

/-!
# Core values

What a plain scalar is taken for: nothing, a truth value, a number, or a text. Whole numbers may be
written in four bases.
-/
namespace Swell.Yaml

/-- The value of a scalar of which nothing but its text is known. -/
inductive Core where
  | null
  | bool (b : Bool)
  /-- A whole number without a negative sign. -/
  | natural (n : Nat)
  /-- A whole number with a negative sign. -/
  | negative (n : Int)
  | float (x : Float)
  | text (s : String)

def isNull (text : String) : Bool :=
  ["null", "Null", "NULL", "~"].contains text

def bool? (text : String) : Option Bool :=
  if ["true", "True", "TRUE"].contains text then some true
  else if ["false", "False", "FALSE"].contains text then some false
  else none

private def startsWithSign (cs : List Char) : Bool :=
  cs.head?.any fun c => c == '+' || c == '-'

private def dropSign (cs : List Char) : List Char :=
  if startsWithSign cs then cs.drop 1 else cs

/-- Digits behind a zero are no number. -/
def isPaddedNumber (text : String) : Bool :=
  match dropSign text.toList with
  | '0' :: c :: cs => (c :: cs).all Char.isDigit
  | _ => false

private def digitIn? (base : Nat) (c : Char) : Option Nat :=
  (Text.hexValue? c).filter (· < base)

private def digits? (base : Nat) (cs : List Char) : Option Nat :=
  if cs.isEmpty then none
  else (cs.mapM (digitIn? base)).map (Text.valueOf base)

private def splitBase? : List Char → Option (Nat × List Char)
  | '0' :: 'x' :: cs => some (16, cs)
  | '0' :: 'o' :: cs => some (8, cs)
  | '0' :: 'b' :: cs => some (2, cs)
  | _ => none

def natural? (limit : Nat) (text : String) : Option Nat :=
  let cs := match text.toList with
    | '+' :: cs => cs
    | cs => cs
  let based := match splitBase? cs with
    | some (base, cs) => digits? base cs
    | none => if isPaddedNumber text then none else digits? 10 cs
  based.filter (· < limit)

def negative? (limit : Nat) (text : String) : Option Int :=
  match text.toList with
  | '-' :: cs =>
    let based := match splitBase? cs with
      | some (base, cs) => digits? base cs
      | none => if isPaddedNumber text then none else digits? 10 cs
    (based.filter (· ≤ limit)).map fun n => -Int.ofNat n
  | _ => none

def float? (text : String) : Option Float :=
  let (plus, cs) := match text.toList with
    | '+' :: cs => (true, cs)
    | cs => (false, cs)
  let body := String.ofList cs
  if plus && startsWithSign cs then none
  else if [".inf", ".Inf", ".INF"].contains body then some Decimal.infinity
  else if ["-.inf", "-.Inf", "-.INF"].contains body then some (-Decimal.infinity)
  else if !plus && [".nan", ".NaN", ".NAN"].contains body then some (0.0 / 0.0)
  else (Decimal.read? cs).filter Float.isFinite

namespace Core

/-- A whole number. One that takes up to 128 bits, but more than 64, is none that can be used. -/
private def whole? (text : String) : Option (Option Core) :=
  match natural? (Nat.pow 2 64) text, negative? (Nat.pow 2 63) text with
  | some n, _ => some (some (.natural n))
  | none, some n => some (some (.negative n))
  | none, none =>
    if (natural? (Nat.pow 2 128) text).isSome || (negative? (Nat.pow 2 127) text).isSome then
      some none
    else none

def ofPlain? (text : String) : Option Core :=
  if text.isEmpty || isNull text then some .null
  else
    match bool? text with
    | some b => some (.bool b)
    | none =>
      match whole? text with
      | some value? => value?
      | none =>
        match if isPaddedNumber text then none else float? text with
        | some x => some (.float x)
        | none => some (.text text)

/-- The value of a scalar. A tag of the core schema asks for a kind of value. -/
def ofScalar? (text : String) (style : ScalarStyle) (tag : Option String) : Option Core :=
  let untagged := if style = .plain then ofPlain? text else some (.text text)
  match tag with
  | none => untagged
  | some tag =>
    if tag = coreTags ++ "bool" then (bool? text).map .bool
    else if tag = coreTags ++ "int" then (whole? text).bind id
    else if tag = coreTags ++ "float" then (float? text).map .float
    else if tag = coreTags ++ "null" then if isNull text then some .null else none
    else if tag.startsWith "!" then untagged
    else some (.text text)

def number? : Core → Option Float
  | .natural n => some (Float.ofNat n)
  | .negative n => some (Float.ofInt n)
  | .float x => some x
  | _ => none

end Core
end Swell.Yaml

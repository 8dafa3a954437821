import Swell.Json.Value
import Swell.Text.Digit

/-!
# Reading JSON documents

A document is one value with nothing but blanks around it. Values stand at most 127 deep inside
one another. A number with a point or an exponent, or one too great for 64 bits, is taken as its
digits, as far as they fit 64 bits, times or through one power of ten.
-/
namespace Swell.Json

def isJsonBlank (c : Char) : Bool :=
  c == ' ' || c == '\n' || c == '\t' || c == '\r'

def skipJsonBlanks (cs : List Char) : List Char :=
  cs.dropWhile isJsonBlank

/-- Appends digits to a significand while it stays below 2^64. Gives the significand, how many
digits it took, and the rest. -/
def gather (significand used : Nat) : List Char → Nat × Nat × List Char
  | [] => (significand, used, [])
  | c :: cs =>
    let next := significand * 10 + Text.digitValue c
    if c.isDigit && next < Nat.pow 2 64 then gather next (used + 1) cs
    else (significand, used, c :: cs)

/-- The significand times a power of ten, or through one. Very small values are brought near first.
There is no value beyond the greatest finite number. -/
def scaled? : Nat → Float → Int → Option Float
  | 0, x, _ => some x
  | fuel + 1, x, exponent =>
    if exponent.natAbs < 309 then
      let power := Float.ofScientific 1 false exponent.natAbs
      if 0 ≤ exponent then if (x * power).isInf then none else some (x * power)
      else some (x / power)
    else if x == 0.0 then some x
    else if 0 ≤ exponent then none
    else scaled? fuel (x / 1e308) (exponent + 308)

def floatOf? (negative : Bool) (significand : Nat) (exponent : Int) : Option Json :=
  (scaled? 4 (Float.ofNat significand) exponent).map fun x => .float (if negative then -x else x)

/-- A number whose exponent starts behind its letter. An exponent beyond 32 bits gives zero, or no
number. -/
def readExponent? (negative : Bool) (significand : Nat) (exponent : Int)
    (cs : List Char) : Option (Json × List Char) :=
  let (below, cs) := match cs with
    | '+' :: rest => (false, rest)
    | '-' :: rest => (true, rest)
    | rest => (false, rest)
  let digits := cs.takeWhile Char.isDigit
  let rest := cs.dropWhile Char.isDigit
  let value := Text.decimalValue digits
  if digits.isEmpty then none
  else if Nat.pow 2 31 ≤ value then
    if significand ≠ 0 && !below then none
    else some (.float (if negative then -0.0 else 0.0), rest)
  else
    let exponent := if below then exponent - value else exponent + value
    (floatOf? negative significand exponent).map (·, rest)

def isExponentMark (c : Char) : Bool :=
  c == 'e' || c == 'E'

def readFraction? (negative : Bool) (significand : Nat) (exponent : Int)
    (cs : List Char) : Option (Json × List Char) :=
  let (full, used, rest) := gather significand 0 cs
  let exponent := exponent - used
  if used = 0 && !rest.head?.any Char.isDigit then none
  else
    match rest.dropWhile Char.isDigit with
    | c :: rest =>
      if isExponentMark c then readExponent? negative full exponent rest
      else (floatOf? negative full exponent).map (·, c :: rest)
    | [] => (floatOf? negative full exponent).map (·, [])

def readMagnitude? (negative : Bool) (cs : List Char) : Option (Json × List Char) :=
  let (significand, used, rest) := gather 0 0 cs
  let skipped := (rest.takeWhile Char.isDigit).length
  let rest := rest.dropWhile Char.isDigit
  if used = 0 || (cs.head? == some '0' && used + skipped ≠ 1) then none
  else
    match rest with
    | '.' :: rest => readFraction? negative significand skipped rest
    | rest =>
      match rest with
      | c :: after =>
        if isExponentMark c then readExponent? negative significand skipped after
        else whole rest significand skipped
      | [] => whole rest significand skipped
where
  /-- A number without point and exponent. -/
  whole (rest : List Char) (significand skipped : Nat) : Option (Json × List Char) :=
    if skipped ≠ 0 then (floatOf? negative significand skipped).map (·, rest)
    else if !negative then some (.whole significand, rest)
    else if significand = 0 || Nat.pow 2 63 < significand then
      some (.float (-Float.ofNat significand), rest)
    else some (.whole (-significand), rest)

def readHex4? : List Char → Option (Nat × List Char)
  | a :: b :: c :: d :: rest => (Text.hexadecimalValue? [a, b, c, d]).map (·, rest)
  | _ => none

/-- The character of a code behind `\u`; a character beyond 16 bits takes two codes. -/
def readCode? (cs : List Char) : Option (Char × List Char) := do
  let (high, rest) ← readHex4? cs
  if 0xD800 ≤ high && high < 0xDC00 then
    match rest with
    | '\\' :: 'u' :: rest => do
      let (low, rest) ← readHex4? rest
      if 0xDC00 ≤ low && low < 0xE000 then
        some (Char.ofNat (0x10000 + (high - 0xD800) * 0x400 + (low - 0xDC00)), rest)
      else none
    | _ => none
  else if 0xDC00 ≤ high && high < 0xE000 then none
  else some (Char.ofNat high, rest)

/-- The rest of a text behind its opening quote; `found` holds its characters, the last first. -/
def readText? : Nat → List Char → List Char → Option (String × List Char)
  | 0, _, _ => none
  | fuel + 1, found, cs =>
    match cs with
    | [] => none
    | '"' :: rest => some (String.ofList found.reverse, rest)
    | '\\' :: rest =>
      match rest with
      | '"' :: rest => readText? fuel ('"' :: found) rest
      | '\\' :: rest => readText? fuel ('\\' :: found) rest
      | '/' :: rest => readText? fuel ('/' :: found) rest
      | 'b' :: rest => readText? fuel ('\x08' :: found) rest
      | 'f' :: rest => readText? fuel ('\x0c' :: found) rest
      | 'n' :: rest => readText? fuel ('\n' :: found) rest
      | 'r' :: rest => readText? fuel ('\r' :: found) rest
      | 't' :: rest => readText? fuel ('\t' :: found) rest
      | 'u' :: rest => do
        let (c, rest) ← readCode? rest
        readText? fuel (c :: found) rest
      | _ => none
    | c :: rest => if c.toNat < 32 then none else readText? fuel (c :: found) rest

mutual

/-- A value that may hold values `depth` deep, less one. -/
def readValue? (depth : Nat) : Nat → List Char → Option (Json × List Char)
  | 0, _ => none
  | fuel + 1, cs =>
    match skipJsonBlanks cs with
    | 'n' :: 'u' :: 'l' :: 'l' :: rest => some (.null, rest)
    | 't' :: 'r' :: 'u' :: 'e' :: rest => some (.bool true, rest)
    | 'f' :: 'a' :: 'l' :: 's' :: 'e' :: rest => some (.bool false, rest)
    | '"' :: rest => (readText? (rest.length + 1) [] rest).map fun (s, rest) => (.string s, rest)
    | '-' :: rest => readMagnitude? true rest
    | '[' :: rest =>
      if depth ≤ 1 then none
      else
        match skipJsonBlanks rest with
        | ']' :: rest => some (.array [], rest)
        | rest =>
          (readItems? (depth - 1) fuel [] rest).map fun (items, rest) => (.array items, rest)
    | '\x7b' :: rest =>
      if depth ≤ 1 then none
      else
        match skipJsonBlanks rest with
        | '\x7d' :: rest => some (.object [], rest)
        | rest =>
          (readFields? (depth - 1) fuel [] rest).map fun (fields, rest) => (.object fields, rest)
    | rest => readMagnitude? false rest

def readItems? (depth : Nat) :
    Nat → List Json → List Char → Option (List Json × List Char)
  | 0, _, _ => none
  | fuel + 1, found, cs => do
    let (item, rest) ← readValue? depth fuel cs
    match skipJsonBlanks rest with
    | ',' :: rest => readItems? depth fuel (item :: found) rest
    | ']' :: rest => some ((item :: found).reverse, rest)
    | _ => none

def readFields? (depth : Nat) :
    Nat → List (String × Json) → List Char → Option (List (String × Json) × List Char)
  | 0, _, _ => none
  | fuel + 1, found, cs =>
    match skipJsonBlanks cs with
    | '"' :: rest => do
      let (name, rest) ← readText? (rest.length + 1) [] rest
      match skipJsonBlanks rest with
      | ':' :: rest => do
        let (value, rest) ← readValue? depth fuel rest
        match skipJsonBlanks rest with
        | ',' :: rest => readFields? depth fuel ((name, value) :: found) rest
        | '\x7d' :: rest => some (((name, value) :: found).reverse, rest)
        | _ => none
      | _ => none
    | _ => none

end

def depthLimit : Nat := 128

def read? (text : String) : Option Json :=
  let cs := text.toList
  match readValue? depthLimit (2 * cs.length + 2) cs with
  | some (value, rest) => if (skipJsonBlanks rest).isEmpty then some value else none
  | none => none

end Swell.Json

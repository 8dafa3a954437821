import Swell.Text.Property

/-!
# Quoted texts

Two ways of writing a text between double quotes: as messages show it, with every character
visible, and as a JSON document holds it.
-/
namespace Swell.Text

def hexDigits (n : Nat) : String :=
  String.ofList (Nat.toDigits 16 n)

/-- A character inside a quotation in a message. What has no glyph of its own is written as its
number. -/
private def shown (c : Char) : String :=
  match c with
  | '\x00' => "\\0"
  | '\t' => "\\t"
  | '\r' => "\\r"
  | '\n' => "\\n"
  | '"' => "\\\""
  | '\\' => "\\\\"
  | c =>
    if isGraphic c && !extendsGrapheme c then String.singleton c
    else "\\u\x7b" ++ hexDigits c.toNat ++ "\x7d"

def quoted (s : String) : String :=
  "\"" ++ String.join (s.toList.map shown) ++ "\""

def jsonShown (c : Char) : String :=
  match c with
  | '"' => "\\\""
  | '\\' => "\\\\"
  | '\x08' => "\\b"
  | '\x0c' => "\\f"
  | '\n' => "\\n"
  | '\r' => "\\r"
  | '\t' => "\\t"
  | c =>
    if c.toNat < 32 then
      let digits := hexDigits c.toNat
      "\\u" ++ String.ofList (List.replicate (4 - digits.length) '0') ++ digits
    else String.singleton c

def jsonQuoted (s : String) : String :=
  "\"" ++ String.join (s.toList.map jsonShown) ++ "\""

end Swell.Text

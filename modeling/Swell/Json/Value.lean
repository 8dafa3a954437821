import Swell.Decimal.Layout
import Swell.Text.Quoted

/-!
# JSON values

The values of JSON documents and their indented text.
-/
namespace Swell

/-- A JSON value. Numbers without point and exponent are whole as long as they fit 64 bits. An
object keeps its fields as they were written. -/
inductive Json where
  | null
  | bool (b : Bool)
  | whole (n : Int)
  | float (x : Float)
  | string (s : String)
  | array (items : List Json)
  | object (fields : List (String × Json))

namespace Json

/-- The value of a field; of two fields with one name the last counts. -/
def field? (fields : List (String × Json)) (name : String) : Option Json :=
  (fields.reverse.find? fun f => f.1 == name).map (·.2)

def indent (depth : Nat) : String :=
  "\n" ++ String.ofList (List.replicate (2 * depth) ' ')

mutual

/-- The text of a value that stands at a depth. What is no number has no text of its own. -/
def prettyAt (depth : Nat) : Json → String
  | .null => "null"
  | .bool b => if b then "true" else "false"
  | .whole n => toString n
  | .float x => if x.isFinite then Decimal.listed x else "null"
  | .string s => Text.jsonQuoted s
  | .array [] => "[]"
  | .array (item :: items) =>
    "[" ++ indent (depth + 1) ++ item.prettyAt (depth + 1) ++ prettyItems (depth + 1) items
      ++ indent depth ++ "]"
  | .object [] => "\x7b\x7d"
  | .object ((name, value) :: fields) =>
    "\x7b" ++ indent (depth + 1) ++ Text.jsonQuoted name ++ ": " ++ value.prettyAt (depth + 1)
      ++ prettyFields (depth + 1) fields ++ indent depth ++ "\x7d"

def prettyItems (depth : Nat) : List Json → String
  | [] => ""
  | item :: items => "," ++ indent depth ++ item.prettyAt depth ++ prettyItems depth items

def prettyFields (depth : Nat) : List (String × Json) → String
  | [] => ""
  | (name, value) :: fields =>
    "," ++ indent depth ++ Text.jsonQuoted name ++ ": " ++ value.prettyAt depth
      ++ prettyFields depth fields

end

def pretty (j : Json) : String :=
  j.prettyAt 0

end Json
end Swell

import Swell.Json.Value

/-!
# Shapes of JSON values

Taking a JSON value as the value of a type. The first part that does not have the right shape is
reported, with what stands there and what was wanted. Main statement: exactly the truth values
are taken as such.
-/
namespace Swell.Json

inductive ShapeFault where
  /-- Another kind of value was wanted. -/
  | unwanted (found : Json) (wanted : String)
  | missingField (name : String)
  /-- An array in place of an object is too short. -/
  | tooFew (count : Nat) (wanted : String)
  /-- An array in place of an object is too long. -/
  | tooMany (count : Nat)

/-- What a message says stands in the place of another value. -/
def naming : Json → String
  | .null => "null"
  | .bool b => "boolean `" ++ (if b then "true" else "false") ++ "`"
  | .whole n => "integer `" ++ toString n ++ "`"
  | .float x =>
    let text := Decimal.prose x
    "floating point `" ++ text ++ (if text.toList.contains '.' then "" else ".0") ++ "`"
  | .string s => "string " ++ Text.quoted s
  | .array _ => "sequence"
  | .object _ => "map"

namespace ShapeFault

def message : ShapeFault → String
  | .unwanted found wanted => "invalid type: " ++ found.naming ++ ", expected " ++ wanted
  | .missingField name => "missing field `" ++ name ++ "`"
  | .tooFew count wanted => "invalid length " ++ toString count ++ ", expected " ++ wanted
  | .tooMany count =>
    "invalid length " ++ toString count ++ ", expected fewer elements in array"

end ShapeFault

def asNumber : Json → Except ShapeFault Float
  | .whole n => .ok (Float.ofInt n)
  | .float x => .ok x
  | found => .error (.unwanted found "f64")

def asBool : Json → Except ShapeFault Bool
  | .bool b => .ok b
  | found => .error (.unwanted found "a boolean")

def asNumbers : Json → Except ShapeFault (List Float)
  | .array items => items.mapM asNumber
  | found => .error (.unwanted found "a sequence")

def optional {α : Type} (take : Json → Except ShapeFault α) (fields : List (String × Json))
    (name : String) : Except ShapeFault (Option α) :=
  match field? fields name with
  | none => .ok none
  | some value => (take value).map some

/-- Fails for a field that is not there. -/
def present {α : Type} (name : String) : Option α → Except ShapeFault α
  | some a => .ok a
  | none => .error (.missingField name)

def required {α : Type} (take : Json → Except ShapeFault α) (fields : List (String × Json))
    (name : String) : Except ShapeFault α := do
  present name (← optional take fields name)

theorem asBool_eq_ok_iff (j : Json) (b : Bool) : j.asBool = .ok b ↔ j = .bool b := by
  cases j <;> simp [asBool]

end Swell.Json

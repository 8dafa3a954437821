import Swell.Fault
import Swell.Files
import Swell.Json.Reader
import Swell.Json.Shape

/-!
# Vessel files and wave files

A vessel and a wave each stand in a JSON document of their own, whose kind is marked in the name
of the file, just before the last point. Main statement: no name carries the marks of both kinds.
-/
namespace Swell

inductive DocumentKind where
  | vessel
  | wave
  deriving Repr, DecidableEq

namespace DocumentKind

def mark : DocumentKind → String
  | .vessel => "vs"
  | .wave => "wv"

/-- The properties that a document must have, in the order in which missing ones are named. -/
def properties : DocumentKind → List String
  | .vessel => ["length", "width", "motor", "berth", "sail"]
  | .wave => ["series"]

/-- The piece of a file's name between its last two points is the mark. -/
def marks (kind : DocumentKind) (path : String) : Bool :=
  match (fileName? path).map fun name => (Text.pieces '.' name).reverse with
  | some (_ :: piece :: _ :: _) => piece == kind.mark
  | _ => false

/-- A name has the mark of one kind at most. -/
theorem eq_of_marks {k l : DocumentKind} {path : String} (hk : k.marks path = true)
    (hl : l.marks path = true) : k = l := by
  unfold marks at hk hl
  split at hk
  · rename_i h
    rw [h] at hl
    simp only [beq_iff_eq] at hk hl
    subst hk
    cases k <;> cases l <;> simp_all [mark]
  · simp at hk

end DocumentKind

inductive DocumentFault where
  | unmarked (kind : DocumentKind)
  | unreadable (fault : FileFault)
  | notJson
  | notObject
  /-- Properties that the document must have are missing. -/
  | missing (names : List String)
  | shape (fault : Json.ShapeFault)

namespace DocumentFault

/-- The text of the fault; where a document stops being JSON is not part of it. -/
def message : DocumentFault → String
  | .unmarked kind => "expected a '*." ++ kind.mark ++ ".json' file"
  | .unreadable fault => fault.message
  | .notJson => "invalid JSON:"
  | .notObject => "expected a JSON object"
  | .missing names => "missing required properties: " ++ ", ".intercalate names
  | .shape fault => fault.message

def toFault (f : DocumentFault) (path : String) : Fault :=
  .input path f.message

end DocumentFault

def DocumentKind.fields (kind : DocumentKind) (files : FileView) (path : String) :
    Except DocumentFault (List (String × Json)) := do
  if !kind.marks path then .error (.unmarked kind)
  let text ← (files path).mapError .unreadable
  match Json.read? text with
  | none => .error .notJson
  | some (.object fields) =>
    let missing := kind.properties.filter fun name => (Json.field? fields name).isNone
    if missing.isEmpty then .ok fields else .error (.missing missing)
  | some _ => .error .notObject

namespace Vessel

/-- The vessel that the fields of a document describe. They are looked at in alphabetical order. -/
def ofFields (fields : List (String × Json)) : Except Json.ShapeFault Vessel := do
  let berth ← Json.required Json.asNumber fields "berth"
  let length ← Json.required Json.asNumber fields "length"
  let motor ← Json.required Json.asBool fields "motor"
  let sail ← Json.required Json.asBool fields "sail"
  let width ← Json.required Json.asNumber fields "width"
  return ⟨length, width, motor, sail, berth⟩

def load (files : FileView) (path : String) : Except DocumentFault Vessel := do
  (ofFields (← DocumentKind.vessel.fields files path)).mapError .shape

end Vessel

namespace Series

def wanted : String := "struct Series"

/-- A series is an object with both lists, or an array of the two. -/
def ofJson : Json → Except Json.ShapeFault (Series Float)
  | .object fields => do
    let x ← Json.optional Json.asNumbers fields "x"
    let y ← Json.optional Json.asNumbers fields "y"
    return ⟨← Json.present "x" x, ← Json.present "y" y⟩
  | .array items =>
    let tooFew count := Except.error (.tooFew count (wanted ++ " with 2 elements"))
    match items with
    | [] => tooFew 0
    | x :: items => do
      let x ← x.asNumbers
      match items with
      | [] => tooFew 1
      | y :: items => do
        let y ← y.asNumbers
        if items.isEmpty then .ok ⟨x, y⟩ else .error (.tooMany (items.length + 2))
  | found => .error (.unwanted found wanted)

def ofFields (fields : List (String × Json)) : Except Json.ShapeFault (Series Float) :=
  Json.required ofJson fields "series"

def load (files : FileView) (path : String) : Except DocumentFault (Series Float) := do
  (ofFields (← DocumentKind.wave.fields files path)).mapError .shape

end Series
end Swell

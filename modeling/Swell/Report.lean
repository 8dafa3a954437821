import Swell.Json.Value
import Swell.Verdict

/-!
# Reports

What is printed about a sentence that could be read: four lines or a JSON document, and on request
a line for each state of its history. Main statement: a report has four lines, and a history as
many as it has states.
-/
namespace Swell

/-- Adds a text to a buffer; a line end comes between two texts. -/
def capture (buffer text : String) : String :=
  if buffer.isEmpty then text else buffer ++ "\n" ++ text

def captured (texts : List String) : String :=
  texts.foldl capture ""

/-- The texts as a terminal shows them, each in lines of its own. -/
def displayed (texts : List String) : String :=
  String.join (texts.map fun text => text ++ "\n")

namespace State

def label (s : State) : String :=
  match s.taken with
  | none => "(seed)"
  | some atom => if Text.isBlankText atom then "(separator)" else atom

def positionWidth : Nat := 4

/-- The position, aligned at its right, and what was taken last. -/
def line (s : State) : String :=
  let position := toString s.position
  String.ofList (List.replicate (positionWidth - position.length) ' ') ++ position ++ "  " ++
    s.label

def toJson (s : State) : Json :=
  .object [
    ("remaining", .array (s.remaining.map .string)),
    ("last_consumed", match s.taken with | none => .null | some atom => .string atom),
    ("position", .whole s.position)]

end State

namespace History

def lines (h : History) : List String :=
  h.toList.map State.line

@[simp] theorem length_lines (h : History) : h.lines.length = h.length := by
  simp [lines]

end History

structure Report where
  collection : String
  sentence : String
  reading : Reading

namespace Report

def lines (r : Report) : List String :=
  ["Parse complete",
    "Sentence: " ++ r.sentence,
    "States: " ++ toString r.reading.history.length,
    "Verdict: " ++ r.reading.verdict.text]

/-- The report as a JSON document, with the whole history. -/
def toJson (r : Report) : Json :=
  .object [
    ("collection", .string r.collection),
    ("sentence", .string r.sentence),
    ("states", .whole r.reading.history.length),
    ("verdict", .string r.reading.verdict.text),
    ("history", .array (r.reading.history.toList.map State.toJson))]

/-- The texts of a report. A JSON document is a single text. -/
def texts (r : Report) (json : Bool) : List String :=
  if json then [r.toJson.pretty] else r.lines

theorem length_lines (r : Report) : r.lines.length = 4 := rfl

end Report
end Swell

import Swell.Fault
import Swell.Files
import Swell.Settings.Overlay

/-!
# Loading settings

Settings come from a preset and, if there is one, a document that sets some of them. Main
statement: loading a file gives what its text gives, if no collection is chosen.
-/
namespace Swell

inductive LoadFault where
  | unreadable (path : String) (fault : FileFault)
  /-- A text is no document that sets settings. -/
  | notYaml (path : Option String)
  | unsound (fault : SettingsFault)

namespace LoadFault

/-- The text of the fault; what is wrong in a document is not part of it. -/
def message : LoadFault → String
  | .unreadable path fault => "failed to read " ++ path ++ ": " ++ fault.message
  | .notYaml none => "invalid YAML:"
  | .notYaml (some path) => "invalid YAML in " ++ path ++ ":"
  | .unsound fault => fault.message

def toFault (f : LoadFault) : Fault :=
  .config f.message

end LoadFault

namespace Overlay

def load (files : FileView) (path : String) : Except LoadFault Overlay := do
  let text ← (files path).mapError (.unreadable path)
  match read? text with
  | some overlay => .ok overlay
  | none => .error (.notYaml (some path))

end Overlay

namespace Settings

/-- The settings for a collection, if one was chosen, and a file, if there is one. -/
def load (files : FileView) (chosen : Option Collection) (path : Option String) :
    Except LoadFault Settings := do
  let overlay ← match path with
    | some path => Overlay.load files path
    | none => .ok {}
  (overlay.resolve chosen).mapError .unsound

def ofText (text : String) : Except LoadFault Settings :=
  match Overlay.read? text with
  | some overlay => (overlay.resolve none).mapError .unsound
  | none => .error (.notYaml none)

/-- A file with a text that sets settings gives the settings of the text. -/
theorem load_of_read? {files : FileView} {path text : String} {overlay : Overlay}
    (hf : files path = .ok text) (ho : Overlay.read? text = some overlay) :
    load files none (some path) = ofText text := by
  have hl : Overlay.load files path = .ok overlay := by
    unfold Overlay.load
    rw [hf]
    change (match Overlay.read? text with
      | some overlay => Except.ok overlay
      | none => .error (LoadFault.notYaml (some path))) = _
    rw [ho]
  unfold load ofText
  rw [ho]
  simp only [hl]
  rfl

end Settings
end Swell

import Swell.Grammar
import Swell.Tag

/-!
# Faults

Everything that can go wrong, as it is reported: the kind of the fault, its text, a code, and
sometimes advice. A fault of a stage is passed on as it is.
-/
namespace Swell

/-- A stage received or gave a value that is not there, has no tag, or has the wrong one. -/
inductive ContractFault where
  | missingInput (expected : Tag)
  | missingTag (expected : Tag)
  | wrongTag (expected actual : Tag)
  deriving Repr, DecidableEq

namespace ContractFault

def message : ContractFault → String
  | .missingInput expected => expected.name ++ " is undefined"
  | .missingTag expected => expected.name ++ " must have a tag"
  | .wrongTag expected actual =>
    expected.name ++ " must have the appropriate tag, but was tagged " ++ actual.name

end ContractFault

inductive Fault where
  | contract (fault : ContractFault)
  | parse (fault : ParseFault)
  /-- A stage could not do its work. -/
  | collaborator (stage message : String)
  | input (path message : String)
  | config (message : String)
  | grammar (message : String)

inductive FaultKind where
  | contract
  | structural
  | mismatch
  | collaborator
  | input
  | config
  | grammar
  deriving Repr, DecidableEq

namespace FaultKind

def name : FaultKind → String
  | .contract => "Contract"
  | .structural => "Structural"
  | .mismatch => "Mismatch"
  | .collaborator => "Collaborator"
  | .input => "Input"
  | .config => "Config"
  | .grammar => "Grammar"

end FaultKind

namespace Fault

def kind : Fault → FaultKind
  | .contract _ => .contract
  | .parse (.structural _) => .structural
  | .parse (.mismatch ..) => .mismatch
  | .collaborator .. => .collaborator
  | .input .. => .input
  | .config _ => .config
  | .grammar _ => .grammar

def message : Fault → String
  | .contract fault => "Contract error: " ++ fault.message
  | .parse fault => "Parse error: " ++ fault.message
  | .collaborator stage message => stage ++ " failed: " ++ message
  | .input path message => "Input error in '" ++ path ++ "': " ++ message
  | .config message => "Configuration error: " ++ message
  | .grammar message => "Grammar error: " ++ message

def code : Fault → String
  | .contract (.missingInput _) => "wavegram::contract::missing_input"
  | .contract (.missingTag _) => "wavegram::contract::missing_tag"
  | .contract (.wrongTag ..) => "wavegram::contract::wrong_tag"
  | .parse (.structural .emptyHistory) => "wavegram::parse::empty_chain"
  | .parse (.structural .nothingRemaining) => "wavegram::parse::empty_remaining"
  | .parse (.structural .emptySentence) => "wavegram::parse::empty_sentence"
  | .parse (.mismatch ..) => "wavegram::parse::mismatch"
  | .collaborator .. => "wavegram::collaborator"
  | .input .. => "wavegram::input"
  | .config _ => "wavegram::config"
  | .grammar _ => "wavegram::grammar"

def help? : Fault → Option String
  | .contract (.wrongTag expected _) =>
    some ("the collaborator feeding this stage must produce a " ++ expected.name)
  | .parse (.structural .emptySentence) =>
    some "the waveform produced no symbols; check the resample step"
  | .parse (.mismatch ..) =>
    some "the sentence contains a symbol this grammar does not accept"
  | .input .. =>
    some "vessel files are named '<name>.vs.json' and wave files '<name>.wv.json'"
  | _ => none

/-- The texts of the faults behind this one, the nearest first. -/
def causes : Fault → List String
  | .contract fault => [fault.message]
  | .parse (.structural fault) => [(ParseFault.structural fault).message, fault.message]
  | .parse fault => [fault.message]
  | _ => []

/-- The fault as it is shown to a user: the code, the text with its causes, and the advice. -/
def report (f : Fault) : String :=
  let causes := f.causes
  let causeLines := causes.zipIdx.map fun (text, i) =>
    (if i + 1 = causes.length then "  ╰─▶ " else "  ├─▶ ") ++ text ++ "\n"
  f.code ++ "\n\n  × " ++ f.message ++ "\n" ++ String.join causeLines
    ++ (match f.help? with
      | some help => "  help: " ++ help ++ "\n"
      | none => "")

end Fault

def BadDimension.toFault (f : BadDimension) : Fault :=
  .collaborator "DeriveConstraints" f.message

def SignalFault.toFault (f : SignalFault Float) : Fault :=
  .collaborator "Preprocess" f.message

def UnreadablePattern.toFault (f : UnreadablePattern) : Fault :=
  .grammar f.message

def SettingsFault.toFault (f : SettingsFault) : Fault :=
  .config f.message

end Swell

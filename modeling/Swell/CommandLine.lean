import Swell.CommandLine.Arguments
import Swell.Document
import Swell.Pipeline
import Swell.Report
import Swell.Settings.Load

/-!
# Commands

What the commands do: they load what they need, settings first, and print a report. Files are seen
through a view, and what is printed is recorded. Main statement: printing adds texts behind those
that were printed before.
-/
namespace Swell

/-- The texts printed so far, the newest first. -/
abbrev Printed := List String

abbrev Console := ExceptT Fault (StateM Printed)

namespace Console

def print (texts : List String) : Console Unit :=
  modify fun printed => texts.reverse ++ printed

def check {ε α : Type} (toFault : ε → Fault) (result : Except ε α) : Console α :=
  ExceptT.mk (pure (result.mapError toFault))

/-- The texts that are printed, in order, and how it ends. -/
def outcome (c : Console Unit) : List String × Except Fault Unit :=
  let (result, printed) := c.run.run []
  (printed.reverse, result)

end Console

namespace CommandOptions

def settings (o : CommandOptions) (files : FileView) : Console Settings :=
  Console.check LoadFault.toFault (Settings.load files o.collection o.config)

end CommandOptions

namespace Command

open Console

/-- The stages of the pipeline, none of which is replaced. -/
def stages (settings : Settings) : Stages Id :=
  Stages.ofSettings settings

def performRun (files : FileView) (vessel wave : String) (options : CommandOptions) :
    Console Unit := do
  let settings ← options.settings files
  let vessel ← check (·.toFault vessel) (Vessel.load files vessel)
  let wave ← check (·.toFault wave) (Series.load files wave)
  let reading ← check id (Id.run ((stages settings).runInputs vessel wave).run)
  let report : Report :=
    ⟨settings.collection.name, String.join reading.history.consumed, reading⟩
  print (report.texts options.json)

/-- Reads a sentence and reports on it, with its history. -/
def performParse (files : FileView) (sentence : String) (vessel : Option String)
    (options : CommandOptions) : Console Unit := do
  let settings ← options.settings files
  let limits ← match vessel with
    | none => pure Limits.none
    | some path => do
      let vessel ← check (·.toFault path) (Vessel.load files path)
      check BadDimension.toFault vessel.limits
  let grammar ← check UnreadablePattern.toFault
    (Grammar.generate settings.collection settings.rules limits)
  let reading ← check Fault.parse (grammar.run ⟨sentence⟩)
  if !options.json then print reading.history.lines
  let report : Report := ⟨settings.collection.name, sentence, reading⟩
  print (report.texts options.json)

def perform (files : FileView) : Command → Console Unit
  | .run vessel wave options => performRun files vessel wave options
  | .parse sentence vessel options => performParse files sentence vessel options

/-- The paths that a command may read. -/
def paths : Command → List String
  | .run vessel wave options => options.config.toList ++ [vessel, wave]
  | .parse _ vessel options => options.config.toList ++ vessel.toList

end Command

namespace CommandLine

def versionText : String := "wavegram 0.1.0"

def helpText : String :=
  "\n".intercalate [
    "Classifies sampled waveforms into symbolic sentences and checks them " ++
      "against a vessel's grammar.",
    "",
    "Usage:",
    "  wavegram run --vessel <VESSEL> --wave <WAVE> [OPTIONS]",
    "  wavegram parse <SENTENCE> [--vessel <VESSEL>] [OPTIONS]",
    "",
    "Options:",
    "      --collection <COLLECTION>  Collection to start from: alpha or beta",
    "      --config <CONFIG>          YAML file over the preset of the collection",
    "      --json                     Print a JSON document instead of text",
    "  -h, --help                     Print help",
    "  -V, --version                  Print version"]

structure Outcome where
  exitCode : UInt32
  /-- The texts for the standard output, in order. -/
  texts : List String
  fault : Option Fault

end CommandLine

def UsageFault.outcome : UsageFault → CommandLine.Outcome
  | .help => ⟨0, [CommandLine.helpText], none⟩
  | .version => ⟨0, [CommandLine.versionText], none⟩
  | _ => ⟨2, [], none⟩

namespace CommandLine

def execute (files : FileView) (arguments : List String) : Outcome :=
  match read arguments with
  | .error fault => fault.outcome
  | .ok command =>
    match (command.perform files).outcome with
    | (texts, .ok ()) => ⟨0, texts, none⟩
    | (texts, .error fault) => ⟨1, texts, some fault⟩

end CommandLine

theorem Console.run_print (texts : List String) (printed : Printed) :
    (Console.print texts).run.run printed = (.ok (), texts.reverse ++ printed) := rfl

end Swell

import Swell.CommandLine
import Swell.Proofs.Pipeline.Outcome

/-!
# What commands report

A command comes to its report before it prints anything. Main statements: both commands print
their report to the end, or nothing at all and end in the first fault on the way to it.
-/
namespace Swell

namespace Console

variable {ε α β : Type}

/-- How a command ends that prints what it comes to, or ends in the fault it comes to instead. -/
def outcomeOf (texts : α → List String) : Except Fault α → List String × Except Fault Unit
  | .ok a => (texts a, .ok ())
  | .error fault => ([], .error fault)

theorem outcome_print (texts : List String) : (print texts).outcome = (texts, .ok ()) := by
  rw [outcome, run_print]
  simp

theorem print_bind_print (texts further : List String) :
    (print texts >>= fun _ => print further) = print (texts ++ further) := by
  funext printed
  change (Except.ok (), further.reverse ++ (texts.reverse ++ printed)) =
    (Except.ok (), (texts ++ further).reverse ++ printed)
  rw [List.reverse_append, List.append_assoc]

/-- A command goes on with what a check gives, and ends in its fault with nothing printed. -/
theorem outcome_check_bind {next : α → Console Unit} {texts : β → List String}
    {g : α → Except Fault β} (hnext : ∀ a, (next a).outcome = outcomeOf texts (g a))
    (toFault : ε → Fault) (result : Except ε α) :
    (check toFault result >>= next).outcome =
      outcomeOf texts (result.mapError toFault >>= g) := by
  cases result with
  | error e => rfl
  | ok a => exact hnext a

end Console

namespace Command

open Console

variable (files : FileView) (options : CommandOptions)

def runReport (vessel wave : String) : Except Fault Report := do
  let settings ←
    (Settings.load files options.collection options.config).mapError LoadFault.toFault
  let v ← (Vessel.load files vessel).mapError (·.toFault vessel)
  let w ← (Series.load files wave).mapError (·.toFault wave)
  let reading ← settings.outcome v w
  .ok ⟨settings.collection.name, String.join reading.history.consumed, reading⟩

def limitsOf : Option String → Except Fault Limits
  | none => .ok Limits.none
  | some path => do
    let v ← (Vessel.load files path).mapError (·.toFault path)
    v.limits.mapError BadDimension.toFault

def sentenceReport (settings : Settings) (sentence : String) (limits : Limits) :
    Except Fault Report := do
  let grammar ← (Grammar.generate settings.collection settings.rules limits).mapError
    UnreadablePattern.toFault
  let reading ← (grammar.run ⟨sentence⟩).mapError Fault.parse
  .ok ⟨settings.collection.name, sentence, reading⟩

def parseReport (sentence : String) (vessel : Option String) : Except Fault Report := do
  let settings ←
    (Settings.load files options.collection options.config).mapError LoadFault.toFault
  let limits ← limitsOf files vessel
  sentenceReport settings sentence limits

/-- The texts that reading a sentence prints: a history comes before a report in lines. -/
def parseTexts (json : Bool) (report : Report) : List String :=
  (if json then [] else report.reading.history.lines) ++ report.texts json

theorem outcome_performRun (vessel wave : String) :
    (performRun files vessel wave options).outcome =
      outcomeOf (fun report => report.texts options.json)
        (runReport files options vessel wave) := by
  rw [performRun, runReport, CommandOptions.settings]
  refine outcome_check_bind (fun settings => ?_) _ _
  refine outcome_check_bind (fun v => ?_) _ _
  refine outcome_check_bind (fun w => ?_) _ _
  rw [stages, Stages.run_ofSettings]
  cases settings.outcome v w with
  | error fault => rfl
  | ok reading => exact outcome_print _

theorem outcome_sentence (settings : Settings) (sentence : String) (limits : Limits) :
    Console.outcome (do
      let grammar ← check UnreadablePattern.toFault
        (Grammar.generate settings.collection settings.rules limits)
      let reading ← check Fault.parse (grammar.run ⟨sentence⟩)
      if !options.json then print reading.history.lines
      let report : Report := ⟨settings.collection.name, sentence, reading⟩
      print (report.texts options.json)) =
    outcomeOf (parseTexts options.json) (sentenceReport settings sentence limits) := by
  refine outcome_check_bind (fun grammar => ?_) _ _
  refine outcome_check_bind (fun reading => ?_) _ _
  cases hjson : options.json with
  | true => exact outcome_print _
  | false =>
    change Console.outcome (print reading.history.lines >>= fun _ => print _) = _
    rw [print_bind_print]
    exact outcome_print _

theorem outcome_performParse (sentence : String) (vessel : Option String) :
    (performParse files sentence vessel options).outcome =
      outcomeOf (parseTexts options.json) (parseReport files options sentence vessel) := by
  rw [performParse, parseReport, CommandOptions.settings]
  refine outcome_check_bind (fun settings => ?_) _ _
  have hrest := outcome_sentence options settings sentence
  cases vessel with
  | none => exact hrest Limits.none
  | some path =>
    have hvessel := fun v : Vessel => outcome_check_bind hrest BadDimension.toFault v.limits
    rw [limitsOf, bind_assoc]
    exact outcome_check_bind hvessel _ _

end Command
end Swell

import Swell.Proofs.CommandLine.Reports
import Swell.Proofs.Grammar.Reread

/-!
# The two commands agree

A wave is reported with the sentence that was read, put together from the atoms of its history.
Main statement: that sentence, given to the other command with the same vessel and the same options,
is reported alike, for all settings that can be loaded; and a generated grammar reads sentences with
the same words alike.
-/
namespace Swell

namespace Command

variable {files : FileView} {options : CommandOptions} {vessel wave : String} {report : Report}

theorem runReport_eq_ok_iff :
    runReport files options vessel wave = .ok report ↔ ∃ settings v w reading,
      Settings.load files options.collection options.config = .ok settings ∧
      Vessel.load files vessel = .ok v ∧ Series.load files wave = .ok w ∧
      settings.outcome v w = .ok reading ∧
      report = ⟨settings.collection.name, String.join reading.history.consumed, reading⟩ := by
  simp [runReport, bind_eq_ok_iff, @eq_comm _ report]

theorem parseReport_eq_ok_iff {sentence : String} :
    parseReport files options sentence (some vessel) = .ok report ↔
      ∃ settings v limits grammar reading,
        Settings.load files options.collection options.config = .ok settings ∧
        Vessel.load files vessel = .ok v ∧ v.limits = .ok limits ∧
        Grammar.generate settings.collection settings.rules limits = .ok grammar ∧
        grammar.run ⟨sentence⟩ = .ok reading ∧
        report = ⟨settings.collection.name, sentence, reading⟩ := by
  simp [parseReport, limitsOf, sentenceReport, bind_eq_ok_iff, @eq_comm _ report]

/-- The sentence of a report has the same report itself. -/
theorem parseReport_of_runReport (h : runReport files options vessel wave = .ok report) :
    parseReport files options report.sentence (some vessel) = .ok report := by
  obtain ⟨settings, v, w, reading, hsettings, hv, -, houtcome, rfl⟩ := runReport_eq_ok_iff.1 h
  obtain ⟨limits, grammar, signal, hlimits, hgrammar, -, hrun⟩ :=
    Settings.outcome_eq_ok_iff.1 houtcome
  have hagain := Grammar.run_join_consumed hgrammar hrun
  exact parseReport_eq_ok_iff.2
    ⟨settings, v, limits, grammar, reading, hsettings, hv, hlimits, hgrammar, hagain, rfl⟩

end Command

open Command

/-- A run that does not end in a fault, with nothing printed, has loaded settings, a vessel and a
wave, and has a reading of these stages. The sentence that its report gives is read again with the
same history and verdict, and printed with the same report, which the history's lines precede if the
report is not a document. Beyond what a run can report, every generated grammar reads sentences with
the same words alike, and reads the text that it has read once more from its atoms. -/
theorem reported_sentence_is_read_alike :
    (∀ (files : FileView) (vessel wave : String) (options : CommandOptions),
      (∃ fault, (performRun files vessel wave options).outcome = ([], .error fault)) ∨
      ∃ settings v w limits grammar reading sentence report,
        Settings.load files options.collection options.config = .ok settings ∧
        Vessel.load files vessel = .ok v ∧ Series.load files wave = .ok w ∧
        v.limits = .ok limits ∧
        Grammar.generate settings.collection settings.rules limits = .ok grammar ∧
        Id.run ((Stages.ofSettings settings : Stages Id).runInputs v w).run = .ok reading ∧
        sentence = String.join reading.history.consumed ∧
        report = Report.mk settings.collection.name sentence reading ∧
        (performRun files vessel wave options).outcome = (report.texts options.json, .ok ()) ∧
        grammar.run ⟨sentence⟩ = .ok reading ∧
        (performParse files sentence (some vessel) options).outcome =
          ((if options.json then [] else reading.history.lines) ++ report.texts options.json,
            .ok ())) ∧
    ∀ (c : Collection) (r : GrammarRules) (l : Limits) (g : Grammar),
      Grammar.generate c r l = .ok g →
      (∀ s t : Sentence, s.words = t.words → g.run s = g.run t) ∧
      ∀ (s : Sentence) (reading : Reading), g.run s = .ok reading →
        g.run ⟨String.join reading.history.consumed⟩ = .ok reading := by
  constructor
  · intro files vessel wave options
    have hrun := outcome_performRun files options vessel wave
    cases hreport : runReport files options vessel wave with
    | error fault =>
      left
      rw [hrun, hreport]
      exact ⟨fault, rfl⟩
    | ok report =>
      right
      have hparse := outcome_performParse files options report.sentence (some vessel)
      rw [parseReport_of_runReport hreport] at hparse
      rw [hreport] at hrun
      obtain ⟨settings, v, w, reading, hsettings, hv, hw, houtcome, rfl⟩ :=
        runReport_eq_ok_iff.1 hreport
      obtain ⟨limits, grammar, signal, hlimits, hgrammar, -, hread⟩ :=
        Settings.outcome_eq_ok_iff.1 houtcome
      refine ⟨settings, v, w, limits, grammar, reading, _, _, hsettings, hv, hw, hlimits, hgrammar,
        ?_, rfl, rfl, hrun, Grammar.run_join_consumed hgrammar hread, hparse⟩
      rw [Stages.runInputs_ofSettings, houtcome]
      rfl
  · intro c r l g hg
    exact ⟨fun s t => g.run_congr, fun s reading => Grammar.run_join_consumed hg⟩

/-- The preset with three levels, for no vessel: blanks of any kind may stand between words. -/
theorem beta_reads_words_behind_any_blanks :
    ∃ g, Grammar.generate .beta (Settings.preset .beta).rules .none = .ok g ∧
      Sentence.words ⟨" P1\t F\n"⟩ = Sentence.words ⟨"P1 F"⟩ ∧
      g.run ⟨" P1\t F\n"⟩ = g.run ⟨"P1 F"⟩ ∧
      ∃ reading, g.run ⟨"P1 F"⟩ = .ok reading ∧
        g.run ⟨String.join reading.history.consumed⟩ = .ok reading := by
  have hlevels : (Settings.preset .beta).rules.levels ≤ levelLimit := by decide
  have hg := Grammar.generate_eq_ok .beta .none hlevels
  have hwords : Sentence.words ⟨" P1\t F\n"⟩ = Sentence.words ⟨"P1 F"⟩ := by decide +kernel
  obtain ⟨halike, hagain⟩ := reported_sentence_is_read_alike.2 _ _ _ _ hg
  obtain ⟨reading, hreading⟩ : ∃ reading,
      (Grammar.generated .beta (Settings.preset .beta).rules .none).run ⟨"P1 F"⟩ = .ok reading := by
    have hok : ((Grammar.generated .beta (Settings.preset .beta).rules .none).run
        ⟨"P1 F"⟩).isOk = true := by
      decide +kernel
    revert hok
    cases Grammar.run _ _ with
    | error fault => simp [Except.isOk, Except.toBool]
    | ok reading => simp
  exact ⟨_, hg, hwords, halike _ _ hwords, reading, hreading, hagain _ reading hreading⟩

end Swell

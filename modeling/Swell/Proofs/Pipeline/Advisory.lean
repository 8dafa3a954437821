import Swell.Proofs.Grammar.Exactness
import Swell.Proofs.Pipeline.Outcome
import Swell.Proofs.Sentence.Symbols
import Swell.Proofs.Settings.Check
import Swell.Proofs.Signal.Levels

/-!
# Advisory settings read what they produce

The classifier gives no level that the grammar has no symbol for, and an advisory grammar keeps
all of them. Main statements: how a run ends with advisory settings that have no fault. It fails
where the vessel has no limits or the wave no spline, or where there is nothing to read, and
otherwise reads the sentence of the wave from end to end.
-/
namespace Swell

theorem GrammarRules.spells_symbol {r : GrammarRules} (he : r.enforcement = .advisory)
    (limits : Limits) {l : Level} (hl : l.Within r.levels) : r.Spells limits l.symbol := by
  have hkept : ∀ limit k, 1 ≤ k → k ≤ r.levels → r.Kept limit k := by
    intro limit k hone hk
    refine ⟨hone, hk, ?_⟩
    rintro ⟨hstrict, -⟩
    rw [he] at hstrict
    cases hstrict
  rw [Level.Within] at hl
  rcases l.symbol_cases with ⟨-, h⟩ | ⟨hpos, h⟩ | ⟨hneg, h⟩
  · exact .inl h
  · exact .inr (.inl ⟨_, hkept _ _ (by omega) hl, h⟩)
  · exact .inr (.inr ⟨_, hkept _ _ (by omega) hl, h⟩)

namespace Settings

variable {s : Settings} (hs : s.Sound)
include hs

theorem exists_classify (series : Series Float) :
    ∃ signal, s.sampling.classifier.classify series = .ok signal ∧
      ∀ l ∈ signal.y, l.Within s.rules.levels := by
  have hlevels := hs.levels_le
  have hnamed := hs.named
  rw [levelLimit] at hlevels
  obtain ⟨signal, hsignal, hwithin⟩ :=
    Classifier.exists_classify hs.classifier (by omega) series
  exact ⟨signal, hsignal, fun l hl => Nat.le_trans (hwithin l hl) hnamed⟩

theorem signal_cases (wave : Series Float) :
    (∃ fault, s.sampling.resampled wave = .error fault ∧ s.sampling.signal wave = .error fault) ∨
    ∃ series signal, s.sampling.resampled wave = .ok series ∧
      s.sampling.signal wave = .ok signal ∧ ∀ l ∈ signal.y, l.Within s.rules.levels := by
  rw [Sampling.signal_eq_bind]
  cases s.sampling.resampled wave with
  | error fault => exact .inl ⟨fault, rfl, rfl⟩
  | ok series =>
    obtain ⟨signal, hsignal, hwithin⟩ := exists_classify hs series
    exact .inr ⟨series, signal, rfl, hsignal, hwithin⟩

variable (he : s.rules.enforcement = .advisory)
include he

theorem run_sentence (limits : Limits) {signal : CoarseSignal}
    (hwithin : ∀ l ∈ signal.y, l.Within s.rules.levels) :
    (signal.y = [] ∧ (Grammar.generated s.collection s.rules limits).run signal.sentence =
      .error (.structural .emptySentence)) ∨
    (signal.y ≠ [] ∧ (Grammar.generated s.collection s.rules limits).run signal.sentence =
      .ok ⟨.whole signal.sentence,
        (Grammar.generated s.collection s.rules limits).judge signal.sentence⟩) := by
  have hwords := signal.words_sentence
  have hspelled : ∀ w ∈ signal.sentence.words, s.rules.Spells limits w := by
    rw [hwords]
    intro w hw
    obtain ⟨l, hl, rfl⟩ := List.mem_map.1 hw
    exact GrammarRules.spells_symbol he limits (hwithin l hl)
  rcases Grammar.run_cases s.collection limits hs.levels_le signal.sentence with
    ⟨hnil, hrun⟩ | ⟨hne, -, hrun⟩ | ⟨i, w, hfirst, -⟩
  · rw [hwords, List.map_eq_nil_iff] at hnil
    exact .inl ⟨hnil, hrun⟩
  · rw [hwords, ne_eq, List.map_eq_nil_iff] at hne
    exact .inr ⟨hne, hrun⟩
  · exact absurd (hspelled w hfirst.mem) hfirst.refused

/-- The four ends of a run, in the order in which the stages can come to them. -/
theorem outcome_cases (vessel : Vessel) (wave : Series Float) :
    (∃ fault, vessel.limits = .error fault ∧ s.outcome vessel wave = .error fault.toFault) ∨
    (∃ limits fault, vessel.limits = .ok limits ∧ s.sampling.resampled wave = .error fault ∧
      s.outcome vessel wave = .error fault.toFault) ∨
    (∃ limits series signal, vessel.limits = .ok limits ∧
      s.sampling.resampled wave = .ok series ∧ s.sampling.signal wave = .ok signal ∧
      signal.y = [] ∧ s.outcome vessel wave = .error (.parse (.structural .emptySentence))) ∨
    ∃ limits series signal, vessel.limits = .ok limits ∧
      s.sampling.resampled wave = .ok series ∧ s.sampling.signal wave = .ok signal ∧
      signal.y ≠ [] ∧ s.outcome vessel wave = .ok ⟨.whole signal.sentence,
        (Grammar.generated s.collection s.rules limits).judge signal.sentence⟩ := by
  rw [outcome]
  cases vessel.limits with
  | error fault => exact .inl ⟨fault, rfl, rfl⟩
  | ok limits =>
    right
    have hgrammar := Grammar.generate_eq_ok s.collection limits hs.levels_le
    rcases signal_cases hs wave with ⟨fault, hspline, hsignal⟩ | ⟨series, signal, hspline, hsignal,
      hwithin⟩
    · left
      refine ⟨limits, fault, rfl, hspline, ?_⟩
      simp only [Except.mapError, bind, Except.bind, hgrammar, hsignal]
    · right
      rcases run_sentence hs he limits hwithin with ⟨hnil, hrun⟩ | ⟨hne, hrun⟩
      · left
        refine ⟨limits, series, signal, rfl, hspline, hsignal, hnil, ?_⟩
        simp only [Except.mapError, bind, Except.bind, hgrammar, hsignal, hrun]
      · right
        refine ⟨limits, series, signal, rfl, hspline, hsignal, hne, ?_⟩
        simp only [Except.mapError, bind, Except.bind, hgrammar, hsignal, hrun]

end Settings

/-- With advisory settings that have no fault, a run fails where the vessel has no limits or the
wave no spline, and where the signal is empty. Otherwise it reads the signal's sentence, and judges
it as the grammar for the vessel does. -/
theorem advisory_pipeline_reads_its_sentence (settings : Settings)
    (hs : settings.check = .ok ()) (he : settings.rules.enforcement = .advisory) :
    (∀ series : Series Float,
      ∃ signal, settings.sampling.classifier.classify series = .ok signal) ∧
    ∀ (vessel : Vessel) (wave : Series Float) (outcome : Except Fault Reading),
      Id.run ((Stages.ofSettings settings : Stages Id).runInputs vessel wave).run = outcome →
      ((∃ stage message, outcome = .error (.collaborator stage message)) ↔
        (∃ fault, vessel.limits = .error fault) ∨
          ∃ fault, settings.sampling.resampled wave = .error fault) ∧
      (outcome = .error (.parse (.structural .emptySentence)) ↔
        (∃ limits, vessel.limits = .ok limits) ∧
          ∃ signal, settings.sampling.signal wave = .ok signal ∧ signal.y = []) ∧
      ((∃ reading, outcome = .ok reading) ↔
        (∃ limits, vessel.limits = .ok limits) ∧
          ∃ signal, settings.sampling.signal wave = .ok signal ∧ signal.y ≠ []) ∧
      (∀ fault, outcome = .error fault →
        fault.kind = .collaborator ∨ fault = .parse (.structural .emptySentence)) ∧
      ∀ reading, outcome = .ok reading → ∃ limits grammar signal,
        vessel.limits = .ok limits ∧
        Grammar.generate settings.collection settings.rules limits = .ok grammar ∧
        settings.sampling.signal wave = .ok signal ∧
        reading.history.length = 2 * signal.y.length ∧
        reading.history.isComplete = true ∧
        String.join reading.history.consumed = signal.sentence.text ∧
        reading.verdict = grammar.judge signal.sentence := by
  have hsound := settings.check_eq_ok_iff.1 hs
  refine ⟨fun series => ?_, fun vessel wave outcome hrun => ?_⟩
  · obtain ⟨signal, hsignal, -⟩ := Settings.exists_classify hsound series
    exact ⟨signal, hsignal⟩
  · rw [Stages.runInputs_ofSettings] at hrun
    obtain rfl : settings.outcome vessel wave = outcome := hrun
    rcases Settings.outcome_cases hsound he vessel wave with
      ⟨fault, hlimits, hout⟩ | ⟨limits, fault, hlimits, hspline, hout⟩ |
      ⟨limits, series, signal, hlimits, hspline, hsignal, hnil, hout⟩ |
      ⟨limits, series, signal, hlimits, hspline, hsignal, hne, hout⟩
    · rw [hout, hlimits]
      simp [BadDimension.toFault, Fault.kind]
    · have hsignal : settings.sampling.signal wave = .error fault := by
        rw [Sampling.signal_eq_bind, hspline]
        rfl
      rw [hout, hlimits, hspline, hsignal]
      simp [SignalFault.toFault, Fault.kind]
    · rw [hout, hlimits, hspline, hsignal]
      simp [hnil]
    · rw [hout, hlimits, hspline, hsignal]
      refine ⟨by simp, by simp [hne], by simp [hne], by simp, ?_⟩
      intro reading hreading
      cases hreading
      have hwords : signal.sentence.words ≠ [] := by
        rw [signal.words_sentence]
        simpa using hne
      refine ⟨limits, _, signal, rfl, Grammar.generate_eq_ok _ limits hsound.levels_le, rfl, ?_,
        History.isComplete_whole _, ?_, rfl⟩
      · rw [History.length_whole_eq_two_mul hwords, signal.wordCount_sentence]
      · rw [History.consumed_whole, signal.join_atoms_sentence]

/-- The preset with three levels has no fault, and does not read a wave of a single point. -/
theorem beta_pipeline_refuses_single_point :
    (Settings.preset .beta).check = .ok () ∧
      (Settings.preset .beta).rules.enforcement = .advisory ∧
      ∃ stage message, Id.run ((Stages.ofSettings (Settings.preset .beta) : Stages Id).runInputs
        ⟨10.0, 4.0, true, true, 2.0⟩ ⟨[0.0], [5.0]⟩).run =
          .error (.collaborator stage message) := by
  have hs := Settings.check_preset .beta
  have he : (Settings.preset .beta).rules.enforcement = .advisory := rfl
  have hends := (advisory_pipeline_reads_its_sentence (Settings.preset .beta) hs he).2
    ⟨10.0, 4.0, true, true, 2.0⟩ ⟨[0.0], [5.0]⟩ _ rfl
  exact ⟨hs, he, hends.1.2 (.inr ⟨.tooFewPoints 1, rfl⟩)⟩

end Swell

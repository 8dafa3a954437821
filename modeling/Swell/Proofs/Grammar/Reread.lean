import Swell.Proofs.Grammar.Tokens
import Swell.Proofs.Recogniser.Drive

/-!
# Reading a sentence again

A grammar takes nothing of a sentence but its words. Main statements: sentences with the same
words are read alike, whatever stands between these; and what a generated grammar has read, whatever
its rules are, it reads again from the atoms in its history, with the same result.
-/
namespace Swell

theorem Recogniser.drive_congr (r : Recogniser) {s t : Sentence} (h : s.words = t.words) :
    drive r s = drive r t := by
  have hatoms := Sentence.atoms_congr h
  rw [drive, drive, repetitions, repetitions, Sentence.wordCount, Sentence.wordCount, h,
    History.ofSentence, History.ofSentence, hatoms]

namespace Grammar

theorem judge_congr (g : Grammar) {s t : Sentence} (h : s.words = t.words) :
    g.judge s = g.judge t := by
  rw [judge, judge, levelsOf, levelsOf, h]

theorem run_congr (g : Grammar) {s t : Sentence} (h : s.words = t.words) : g.run s = g.run t := by
  rw [run, run, Recogniser.drive_congr g.any h, judge_congr g h]

variable {c : Collection} {r : GrammarRules} {l : Limits} {g : Grammar}

/-- Also where digits cannot name all levels, a generated grammar is a choice between tokens, and
one of these is for separators. -/
theorem exists_tokens_of_generate (hg : generate c r l = .ok g) :
    ∃ ts : List Token, .blank ∈ ts ∧ g.any = .choice (ts.map .token) := by
  obtain ⟨ts, hts, hchoice⟩ := bind_eq_ok_iff.1 hg
  obtain ⟨peaks, -, hts⟩ := bind_eq_ok_iff.1 hts
  obtain ⟨troughs, -, hts⟩ := bind_eq_ok_iff.1 hts
  obtain ⟨blank, hblank, hts⟩ := bind_eq_ok_iff.1 hts
  obtain ⟨flat, -, hts⟩ := bind_eq_ok_iff.1 hts
  rw [Token.read_blank] at hblank
  cases hblank
  cases hts
  cases hchoice
  exact ⟨_, by simp, rfl⟩

/-- What a generated grammar reads, it reads from end to end. -/
theorem history_eq_whole (hg : generate c r l = .ok g) {s : Sentence} {reading : Reading}
    (hrun : g.run s = .ok reading) : reading.history = .whole s := by
  obtain ⟨ts, hblank, hany⟩ := exists_tokens_of_generate hg
  have hsingle : g.any.isSingle = true := by
    rw [hany, Recogniser.isSingle_choice_token]
  have hseparator : g.any.admits separator = true := by
    rw [hany, Recogniser.admits_choice_token_iff]
    exact ⟨.blank, hblank, Token.blank_accepts_separator⟩
  rw [run] at hrun
  rcases Recogniser.drive_cases hsingle hseparator s with ⟨-, h⟩ | ⟨-, -, h⟩ | ⟨i, w, -, h⟩
  · rw [h] at hrun
    cases hrun
  · rw [h] at hrun
    cases hrun
    rfl
  · rw [h] at hrun
    cases hrun

theorem run_join_consumed (hg : generate c r l = .ok g) {s : Sentence} {reading : Reading}
    (hrun : g.run s = .ok reading) :
    g.run ⟨String.join reading.history.consumed⟩ = .ok reading := by
  rw [history_eq_whole hg hrun, History.consumed_whole, run_congr g s.words_join_atoms, hrun]

end Grammar
end Swell

import Swell.Proofs.Grammar.Tokens
import Swell.Proofs.Recogniser.Drive

/-!
# What a generated grammar reads

A generated grammar reads the sentences whose words spell levels that it keeps. Main statements:
how its readings end, for every sentence; in particular the first word that spells no kept level is
the one that is reported, with everything that could have stood in its place.
-/
namespace Swell

namespace Descriptor

def ofLevel (marker : String) (level : Nat) : Descriptor :=
  .sequence [.pattern ("[" ++ marker ++ "]"), .pattern ("[" ++ toString level ++ "]")]

/-- What messages list when a word is refused: peaks, troughs, the separator and the flat marker. -/
def ofLevels (peaks troughs : List Nat) : List Descriptor :=
  peaks.map (ofLevel "P") ++ troughs.map (ofLevel "T") ++ [.pattern "[\\s]", .pattern "[F]"]

end Descriptor

namespace Grammar

variable (c : Collection) {r : GrammarRules} (l : Limits)

theorem isSingle_generated (r : GrammarRules) : (generated c r l).any.isSingle = true :=
  Recogniser.isSingle_choice_token (r.tokenList l)

theorem generated_admits_separator (r : GrammarRules) :
    (generated c r l).any.admits separator = true := by
  rw [generated, Recogniser.admits_choice_token_iff]
  refine ⟨.blank, ?_, Token.blank_accepts_separator⟩
  rw [GrammarRules.tokenList]
  simp

theorem generated_expects (r : GrammarRules) :
    (generated c r l).any.expected =
      Descriptor.ofLevels (r.keptLevels l.peak) (r.keptLevels l.trough) := by
  rw [generated, Recogniser.expected, Recogniser.descriptors_map_token, GrammarRules.tokenList,
    List.map_append, List.map_append, List.map_map, List.map_map]
  rfl

variable (hr : r.levels ≤ levelLimit)
include hr

theorem generated_admits_iff {w : String} (hw : Text.IsWord w) :
    (generated c r l).any.admits w = true ↔ r.Spells l w := by
  rw [generated, Recogniser.admits_choice_token_iff, GrammarRules.tokenList_accepts_iff hr hw]

theorem run_cases (s : Sentence) :
    (s.words = [] ∧ (generated c r l).run s = .error (.structural .emptySentence)) ∨
    (s.words ≠ [] ∧ (∀ w ∈ s.words, r.Spells l w) ∧
      (generated c r l).run s = .ok ⟨.whole s, (generated c r l).judge s⟩) ∨
    ∃ i w, s.FirstRefused (r.Spells l) i w ∧ (generated c r l).run s = .error (.mismatch (2 * i)
      (Descriptor.ofLevels (r.keptLevels l.peak) (r.keptLevels l.trough)) w) := by
  have hadmits : ∀ w ∈ s.words, (generated c r l).any.admits w = true ↔ r.Spells l w :=
    fun w hw => generated_admits_iff c l hr (Text.isWord_of_mem_words hw)
  rcases Recogniser.drive_cases (isSingle_generated c l r) (generated_admits_separator c l r) s with
    ⟨hw, hrun⟩ | ⟨hw, hall, hrun⟩ | ⟨i, w, hfirst, hrun⟩
  · left
    refine ⟨hw, ?_⟩
    rw [run, hrun]
    rfl
  · right; left
    refine ⟨hw, fun w hmem => (hadmits w hmem).1 (hall w hmem), ?_⟩
    rw [run, hrun]
    rfl
  · right; right
    refine ⟨i, w, hfirst.congr hadmits, ?_⟩
    rw [run, hrun, generated_expects]
    rfl

theorem run_eq_ok_iff (s : Sentence) (reading : Reading) :
    (generated c r l).run s = .ok reading ↔
      s.words ≠ [] ∧ (∀ w ∈ s.words, r.Spells l w) ∧
        reading = ⟨.whole s, (generated c r l).judge s⟩ := by
  rcases run_cases c l hr s with ⟨hw, hrun⟩ | ⟨hw, hall, hrun⟩ | ⟨i, w, hfirst, hrun⟩
  · rw [hrun]
    simp [hw]
  · rw [hrun, Except.ok.injEq, eq_comm, and_iff_right hw, and_iff_right hall]
  · rw [hrun]
    constructor
    · intro h
      cases h
    · rintro ⟨-, hall, -⟩
      exact absurd (hall w hfirst.mem) hfirst.refused

end Grammar

/-- As long as single digits can name the levels, a grammar is generated for any limits. It reads
the sentences that have words and whose words all spell `F` or kept levels, from end to end, and
reports the first word that does not, with the kept levels in ascending order. -/
theorem generated_grammar_reads_spelled_words (c : Collection) (r : GrammarRules) (l : Limits)
    (hr : r.levels ≤ 9) :
    ∃ (g : Grammar) (peaks troughs : List Nat), Grammar.generate c r l = .ok g ∧
      (peaks.Pairwise (· < ·) ∧ ∀ k, k ∈ peaks ↔ r.Kept l.peak k) ∧
      (troughs.Pairwise (· < ·) ∧ ∀ k, k ∈ troughs ↔ r.Kept l.trough k) ∧
      ∀ s : Sentence,
        ((∃ reading, g.run s = .ok reading) ↔ s.words ≠ [] ∧ ∀ w ∈ s.words, r.Spells l w) ∧
        (∀ reading, g.run s = .ok reading →
          reading.history.length = 2 * s.wordCount ∧ reading.history.isComplete = true ∧
            reading.history.consumed = s.words.intersperse " ") ∧
        (s.words = [] → g.run s = .error (.structural .emptySentence)) ∧
        ((∃ w ∈ s.words, ¬r.Spells l w) → ∃ i w, s.FirstRefused (r.Spells l) i w ∧
          g.run s = .error (.mismatch (2 * i) (Descriptor.ofLevels peaks troughs) w)) := by
  refine ⟨.generated c r l, r.keptLevels l.peak, r.keptLevels l.trough,
    Grammar.generate_eq_ok c l hr, ⟨r.keptLevels_ascending _, r.mem_keptLevels _⟩,
    ⟨r.keptLevels_ascending _, r.mem_keptLevels _⟩, fun s => ?_⟩
  rcases Grammar.run_cases c l hr s with ⟨hw, hrun⟩ | ⟨hw, hall, hrun⟩ | ⟨i, w, hfirst, hrun⟩
  · rw [hrun, hw]
    simp
  · rw [hrun]
    refine ⟨⟨fun _ => ⟨hw, hall⟩, fun _ => ⟨_, rfl⟩⟩, ?_, fun hnil => absurd hnil hw, ?_⟩
    · intro reading hreading
      cases hreading
      exact ⟨History.length_whole_eq_two_mul hw, History.isComplete_whole s,
        History.consumed_whole s⟩
    · rintro ⟨w, hmem, hrefused⟩
      exact absurd (hall w hmem) hrefused
  · rw [hrun]
    refine ⟨⟨?_, ?_⟩, ?_, ?_, fun _ => ⟨i, w, hfirst, rfl⟩⟩
    · rintro ⟨reading, hreading⟩
      cases hreading
    · rintro ⟨-, hall⟩
      exact absurd (hall w hfirst.mem) hfirst.refused
    · intro reading hreading
      cases hreading
    · intro hnil
      have hmem := hfirst.mem
      rw [hnil] at hmem
      cases hmem

/-- Strict rules for a vessel that takes peaks up to level two: the third level is refused. -/
theorem strict_grammar_reads_and_refuses :
    (3 : Nat) ≤ 9 ∧ ∃ g : Grammar,
      Grammar.generate .beta ⟨3, .vessel, .strict, [3.5, 7.5, 15.0]⟩ ⟨8.0, 4.0, .unlimited⟩ =
        .ok g ∧
      (∃ reading, g.run ⟨"F P2 T1"⟩ = .ok reading ∧ reading.history.length = 6) ∧
      ∃ i w expected, g.run ⟨"F P3"⟩ = .error (.mismatch (2 * i) expected w) := by
  have hlevels : (3 : Nat) ≤ 9 := by decide
  obtain ⟨g, peaks, troughs, hg, -, -, hreads⟩ := generated_grammar_reads_spelled_words .beta
    ⟨3, .vessel, .strict, [3.5, 7.5, 15.0]⟩ ⟨8.0, 4.0, .unlimited⟩ hlevels
  obtain ⟨hiff, hlength, -, -⟩ := hreads ⟨"F P2 T1"⟩
  obtain ⟨-, -, -, hrefused⟩ := hreads ⟨"F P3"⟩
  have hwords : Sentence.words ⟨"F P2 T1"⟩ = ["F", "P2", "T1"] := by decide
  have hspelled : ∀ w ∈ Sentence.words ⟨"F P2 T1"⟩,
      GrammarRules.Spells ⟨3, .vessel, .strict, [3.5, 7.5, 15.0]⟩ ⟨8.0, 4.0, .unlimited⟩ w := by
    rw [hwords]
    simp only [List.forall_mem_cons]
    refine ⟨.inl rfl, .inr (.inl ⟨2, ⟨by decide, by decide, by decide⟩, rfl⟩),
      .inr (.inr ⟨1, ⟨by decide, by decide, by decide⟩, rfl⟩), by simp⟩
  obtain ⟨reading, hreading⟩ := hiff.2 ⟨by decide, hspelled⟩
  have hhigh : ¬GrammarRules.Spells ⟨3, .vessel, .strict, [3.5, 7.5, 15.0]⟩
      ⟨8.0, 4.0, .unlimited⟩ "P3" := by
    rintro (h | ⟨k, ⟨hone, hle, hfits⟩, h⟩ | ⟨k, ⟨hone, hle, -⟩, h⟩)
    · exact absurd h (by decide)
    · have hthree : k ≤ 3 := hle
      obtain rfl | rfl | rfl : k = 1 ∨ k = 2 ∨ k = 3 := by omega
      · exact absurd h (by decide)
      · exact absurd h (by decide)
      · exact hfits ⟨rfl, by decide⟩
    · have hthree : k ≤ 3 := hle
      obtain rfl | rfl | rfl : k = 1 ∨ k = 2 ∨ k = 3 := by omega
      all_goals exact absurd h (by decide)
  obtain ⟨i, w, -, hrun⟩ := hrefused ⟨"P3", by decide, hhigh⟩
  exact ⟨hlevels, g, hg, ⟨reading, hreading, (hlength reading hreading).1⟩, i, w, _, hrun⟩

end Swell

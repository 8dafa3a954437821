import Mathlib.Data.List.Basic
import Swell.Grammar
import Swell.Proofs.Sentence.Symbols
import Swell.Proofs.Signal.Levels

/-!
# The levels behind a signal's sentence

Main statements: the symbol of a level that has an opposite is read back as that level, so the
levels that the words of a signal's sentence stand for are the levels of the signal.
-/
namespace Swell

theorem Level.ofSymbol?_symbol {l : Level} (hl : l.Within 127) :
    Level.ofSymbol? l.symbol = some l := by
  obtain ⟨n, hn | hn⟩ := Int.eq_nat_or_neg l.toInt
  · have hlevel : Int8.ofNat n = l := by rw [← Int8.ofInt_eq_ofNat, ← hn, Int8.ofInt_toInt]
    have hsmall := Level.ofSymbol?_symbol_of_small n (by rw [Level.Within] at hl; omega)
    rw [← hlevel]
    exact hsmall.1
  · have hlevel : -Int8.ofNat n = l := by
      rw [← Int8.ofInt_eq_ofNat, ← Int8.ofInt_neg, ← hn, Int8.ofInt_toInt]
    have hsmall := Level.ofSymbol?_symbol_of_small n (by rw [Level.Within] at hl; omega)
    rw [← hlevel]
    exact hsmall.2

namespace CoarseSignal

variable {c d : CoarseSignal}

theorem levelsOf_sentence (hc : ∀ l ∈ c.y, l.Within 127) :
    Grammar.levelsOf c.sentence = c.y := by
  have hread : ∀ l ∈ c.y, (Level.ofSymbol? ∘ Level.symbol) l = some l :=
    fun l hl => Level.ofSymbol?_symbol (hc l hl)
  rw [Grammar.levelsOf, words_sentence, List.filterMap_map, List.filterMap_congr hread,
    List.filterMap_some]

end CoarseSignal

/-- A signal whose levels all have opposites is spelled without loss: its words are the symbols of
its levels, one for each sample, its atoms make up its text, and the levels that a grammar judges it
by are its own. So such signals have one text exactly if they have the same levels. -/
theorem sentence_keeps_levels (c : CoarseSignal) (hc : ∀ l ∈ c.y, l.Within 127) :
    c.sentence.words = c.y.map Level.symbol ∧ c.sentence.wordCount = c.y.length ∧
      c.sentence.text = String.join c.sentence.atoms ∧ Grammar.levelsOf c.sentence = c.y ∧
      ∀ d : CoarseSignal, (∀ l ∈ d.y, l.Within 127) →
        (c.sentence.text = d.sentence.text ↔ c.y = d.y) := by
  refine ⟨c.words_sentence, c.wordCount_sentence, c.join_atoms_sentence.symm,
    CoarseSignal.levelsOf_sentence hc, fun d hd => ⟨fun htext => ?_, fun hy => ?_⟩⟩
  · have hsentence : c.sentence = d.sentence := congrArg Sentence.mk htext
    rw [← CoarseSignal.levelsOf_sentence hc, hsentence, CoarseSignal.levelsOf_sentence hd]
  · rw [CoarseSignal.sentence, CoarseSignal.sentence, hy]

/-- The levels that are furthest from flat water, on both sides of it, and what is left of them
without the last. -/
theorem extreme_levels_are_kept :
    (∀ l ∈ [(127 : Level), 0, -127], l.Within 127) ∧
      Grammar.levelsOf (CoarseSignal.mk [1, 2, 3] [127, 0, -127]).sentence = [127, 0, -127] ∧
      (CoarseSignal.mk [1, 2, 3] [127, 0, -127]).sentence.text ≠
        (CoarseSignal.mk [1, 2] [127, 0]).sentence.text := by
  have hlong : ∀ l ∈ [(127 : Level), 0, -127], l.Within 127 := by simp [Level.Within]
  have hshort : ∀ l ∈ [(127 : Level), 0], l.Within 127 := by simp [Level.Within]
  obtain ⟨-, -, -, hlevels, htext⟩ := sentence_keeps_levels ⟨[1, 2, 3], [127, 0, -127]⟩ hlong
  refine ⟨hlong, hlevels, ?_⟩
  rw [Ne, htext ⟨[1, 2], [127, 0]⟩ hshort]
  decide

end Swell

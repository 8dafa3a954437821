import Swell.Proofs.Sentence.Words
import Swell.Signal.Classifier

/-!
# Sentences of signals

Main statements: every symbol is a word; so the words of a signal's sentence are the symbols of its
levels, one for each sample, and its atoms put together are its text.
-/
namespace Swell

namespace Text

theorem isBlank_of_isDigit {c : Char} (h : c.isDigit = true) : isBlank c = false := by
  have hlow : 48 ≤ c.toNat := by
    simp only [Char.isDigit, Bool.and_eq_true, decide_eq_true_eq] at h
    exact h.1
  have hhigh : c.toNat ≤ 57 := by
    simp only [Char.isDigit, Bool.and_eq_true, decide_eq_true_eq] at h
    exact h.2
  rw [← Bool.not_eq_true, isBlank, List.any_eq_true]
  rintro ⟨r, hr, hin⟩
  simp only [blankIntervals, List.mem_cons, List.not_mem_nil, or_false] at hr
  simp only [Bool.and_eq_true, decide_eq_true_eq] at hin
  rcases hr with rfl | rfl | rfl | rfl | rfl | rfl | rfl | rfl | rfl | rfl <;>
    simp only at hin <;> omega

theorem isWord_marked (marker : Char) (hm : isBlank marker = false) (k : Nat) :
    IsWord (String.singleton marker ++ toString k) := by
  have hchars : (String.singleton marker ++ toString k).toList = marker :: Nat.toDigits 10 k := by
    rw [String.toList_append, String.toList_singleton, Nat.toString_eq_repr, Nat.toList_repr]
    rfl
  rw [IsWord, hchars]
  refine ⟨List.cons_ne_nil _ _, fun c hc => ?_⟩
  rcases List.mem_cons.1 hc with rfl | hdigit
  · exact hm
  · exact isBlank_of_isDigit (Nat.isDigit_of_mem_toDigits (by decide) (by decide) hdigit)

end Text

namespace Level

/-- The symbol of a level says on which side of flat it is, and how far away. -/
theorem symbol_cases (l : Level) :
    (l.toInt = 0 ∧ l.symbol = "F") ∨
    (0 < l.toInt ∧ l.symbol = "P" ++ toString l.toInt.natAbs) ∨
    (l.toInt < 0 ∧ l.symbol = "T" ++ toString l.toInt.natAbs) := by
  by_cases hzero : l.toInt = 0
  · exact .inl ⟨hzero, by rw [symbol, if_pos hzero]⟩
  · by_cases hpos : 0 < l.toInt
    · exact .inr (.inl ⟨hpos, by rw [symbol, if_neg hzero, if_pos hpos]⟩)
    · exact .inr (.inr ⟨by omega, by rw [symbol, if_neg hzero, if_neg hpos]⟩)

theorem isWord_symbol (l : Level) : Text.IsWord l.symbol := by
  rcases l.symbol_cases with ⟨-, h⟩ | ⟨-, h⟩ | ⟨-, h⟩
  · rw [h]
    refine ⟨by decide, fun c hc => ?_⟩
    obtain rfl : c = 'F' := by simpa using hc
    decide
  · rw [h]
    exact Text.isWord_marked 'P' (by decide) _
  · rw [h]
    exact Text.isWord_marked 'T' (by decide) _

end Level

namespace CoarseSignal

variable (c : CoarseSignal)

theorem isWord_of_mem_symbols : ∀ w ∈ c.y.map Level.symbol, Text.IsWord w := by
  intro w hw
  obtain ⟨l, -, rfl⟩ := List.mem_map.1 hw
  exact l.isWord_symbol

@[simp] theorem words_sentence : c.sentence.words = c.y.map Level.symbol :=
  Sentence.words_ofSymbols c.isWord_of_mem_symbols

@[simp] theorem wordCount_sentence : c.sentence.wordCount = c.y.length := by
  rw [Sentence.wordCount, words_sentence, List.length_map]

theorem join_atoms_sentence : String.join c.sentence.atoms = c.sentence.text :=
  Sentence.join_atoms_ofSymbols c.isWord_of_mem_symbols

end CoarseSignal
end Swell

import Swell.History
import Swell.Proofs.Sentence.Words

/-!
# Sentences as atoms

Main statement: the atoms of a sentence are its words with one space between each two; put together
they spell the sentence in its plain form, which is cut into the same atoms again; a history starts
complete exactly for a sentence without words; and spelling is undone by cutting exactly for lists
of words.
-/
namespace Swell
namespace Sentence

theorem getElem?_atoms_two_mul_add_one (s : Sentence) (i : Nat) :
    s.atoms[2 * i + 1]? = if i + 1 < s.wordCount then some separator else none := by
  split
  · next hi => exact s.atoms_two_mul_add_one hi
  · next hi =>
    rw [List.getElem?_eq_none_iff, length_atoms, atomCount]
    omega

theorem atoms_join_atoms (s : Sentence) : atoms ⟨String.join s.atoms⟩ = s.atoms :=
  atoms_congr s.words_join_atoms

theorem isComplete_ofSentence (s : Sentence) :
    (History.ofSentence s).isComplete = s.isEmpty := by
  change s.atoms.isEmpty = (s.words.length == 0)
  rw [Bool.eq_iff_iff, List.isEmpty_iff, beq_iff_eq, ← List.length_eq_zero_iff, length_atoms,
    atomCount, wordCount]
  omega

theorem words_ofSymbols_iff (symbols : List String) :
    (ofSymbols symbols).words = symbols ↔ ∀ w ∈ symbols, Text.IsWord w := by
  constructor
  · intro h w hw
    rw [← h] at hw
    exact Text.isWord_of_mem_words hw
  · exact words_ofSymbols

/-- A sentence is cut into its words and the separators between them, and nothing of its plain form
is lost; a list is spelled so that cutting gives it back, exactly if it is a list of words. -/
theorem atoms_are_words_and_separators (s : Sentence) (symbols : List String) :
    s.atoms.length = atomCount s.wordCount ∧
    (∀ i, s.atoms[2 * i]? = s.words[i]?) ∧
    (∀ i, s.atoms[2 * i + 1]? = if i + 1 < s.wordCount then some separator else none) ∧
    (∀ w ∈ s.words, Text.IsWord w) ∧
    String.join s.atoms = (ofSymbols s.words).text ∧
    atoms ⟨String.join s.atoms⟩ = s.atoms ∧
    (History.ofSentence s).isComplete = s.isEmpty ∧
    ((ofSymbols symbols).words = symbols ↔ ∀ w ∈ symbols, Text.IsWord w) :=
  ⟨s.length_atoms, s.atoms_two_mul, s.getElem?_atoms_two_mul_add_one,
    fun _ hw => Text.isWord_of_mem_words hw, s.join_atoms, s.atoms_join_atoms,
    s.isComplete_ofSentence, words_ofSymbols_iff symbols⟩

example : atoms ⟨"\t F  P1\n"⟩ = ["F", " ", "P1"] := by decide

end Sentence
end Swell

import Swell.Sentence

/-!
# Words and atoms of sentences

Main statements: a sentence that spells words, one space apart, has these words, and its atoms put
together are its text; in any sentence the words stand at the even places among the atoms, and
separators at the odd ones.
-/
namespace Swell

namespace Text

/-- The text is a word: it is not empty, and no blank cuts it. -/
def IsWord (w : String) : Prop :=
  w.toList ≠ [] ∧ ∀ c ∈ w.toList, isBlank c = false

theorem isWord_of_mem_words {s w : String} (h : w ∈ words s) : IsWord w := by
  obtain ⟨cs, hcs, rfl⟩ := List.mem_map.1 h
  rw [IsWord, String.toList_ofList]
  exact word_of_mem_wordsOfChars hcs

theorem wordsOfChars_intercalate (ws : List (List Char))
    (h : ∀ w ∈ ws, w ≠ [] ∧ ∀ c ∈ w, isBlank c = false) :
    wordsOfChars ([' '].intercalate ws) = ws := by
  induction ws with
  | nil => rfl
  | cons w ws ih =>
    obtain ⟨hne, hw⟩ := h w List.mem_cons_self
    have hrest := ih fun v hv => h v (List.mem_cons_of_mem w hv)
    cases ws with
    | nil =>
      rw [List.intercalate_singleton]
      exact wordsOfChars_of_word hne hw
    | cons v ws =>
      rw [List.intercalate_cons_cons, List.append_assoc, List.singleton_append,
        wordsOfChars_append_blank isBlank_space, wordsOfChars_of_word hne hw, hrest]
      rfl

theorem words_intercalate {ws : List String} (h : ∀ w ∈ ws, IsWord w) :
    words (separator.intercalate ws) = ws := by
  have hchars : wordsOfChars ([' '].intercalate (ws.map String.toList)) =
      ws.map String.toList := by
    apply wordsOfChars_intercalate
    intro cs hcs
    obtain ⟨w, hw, rfl⟩ := List.mem_map.1 hcs
    exact h w hw
  rw [words, String.toList_intercalate]
  change (wordsOfChars ([' '].intercalate (ws.map String.toList))).map String.ofList = ws
  rw [hchars, List.map_map]
  simp [Function.comp_def]

end Text

theorem forall_mem_or_exists_first {α : Type} (P : α → Prop) (l : List α) :
    (∀ a ∈ l, P a) ∨
      ∃ (i : Nat) (a : α), l[i]? = some a ∧ ¬P a ∧ ∀ j < i, ∀ b, l[j]? = some b → P b := by
  induction l with
  | nil => exact .inl (by simp)
  | cons a l ih =>
    by_cases ha : P a
    · rcases ih with hall | ⟨i, b, hb, hrefused, hbefore⟩
      · exact .inl (List.forall_mem_cons.2 ⟨ha, hall⟩)
      · refine .inr ⟨i + 1, b, hb, hrefused, fun j hj c hc => ?_⟩
        cases j with
        | zero =>
          obtain rfl : a = c := Option.some.inj hc
          exact ha
        | succ j => exact hbefore j (Nat.lt_of_succ_lt_succ hj) c hc
    · exact .inr ⟨0, a, rfl, ha, fun j hj => absurd hj (Nat.not_lt_zero j)⟩

namespace Sentence

theorem words_ofSymbols {symbols : List String} (h : ∀ w ∈ symbols, Text.IsWord w) :
    (ofSymbols symbols).words = symbols :=
  Text.words_intercalate h

theorem join_intersperse (sep : String) (l : List String) :
    String.join (l.intersperse sep) = sep.intercalate l := by
  induction l with
  | nil => rw [List.intersperse_nil, String.join_nil, String.intercalate_nil]
  | cons x l ih =>
    cases l with
    | nil =>
      rw [List.intersperse_singleton, String.join_cons, String.join_nil, String.append_empty,
        String.intercalate_singleton]
    | cons y l =>
      rw [List.intersperse_cons_cons, String.join_cons, String.join_cons, ih,
        String.intercalate_cons_cons, String.append_assoc]

/-- Put together, the atoms are the words one space apart, whatever blanks the text has. -/
theorem join_atoms (s : Sentence) : String.join s.atoms = (ofSymbols s.words).text :=
  join_intersperse separator s.words

/-- Nothing of a spelled sentence is lost or added by cutting it into atoms. -/
theorem join_atoms_ofSymbols {symbols : List String} (h : ∀ w ∈ symbols, Text.IsWord w) :
    String.join (ofSymbols symbols).atoms = (ofSymbols symbols).text := by
  rw [join_atoms, words_ofSymbols h]

theorem atoms_congr {s t : Sentence} (h : s.words = t.words) : s.atoms = t.atoms := by
  rw [atoms, atoms, h]

theorem words_join_atoms (s : Sentence) : words ⟨String.join s.atoms⟩ = s.words := by
  rw [join_atoms]
  exact words_ofSymbols fun w hw => Text.isWord_of_mem_words hw

variable (s : Sentence)

theorem atoms_two_mul (i : Nat) : s.atoms[2 * i]? = s.words[i]? :=
  List.getElem?_intersperse_two_mul

theorem atoms_two_mul_add_one {i : Nat} (hi : i + 1 < s.wordCount) :
    s.atoms[2 * i + 1]? = some separator :=
  List.getElem?_intersperse_two_mul_add_one hi

/-- An atom is a word or a separator, as its place tells. -/
theorem word_or_separator {j : Nat} {atom : Atom} (h : s.atoms[j]? = some atom) :
    (∃ i, j = 2 * i ∧ s.words[i]? = some atom) ∨ atom = separator := by
  obtain ⟨i, rfl | rfl⟩ : ∃ i, j = 2 * i ∨ j = 2 * i + 1 := ⟨j / 2, by omega⟩
  · rw [atoms_two_mul] at h
    exact .inl ⟨i, rfl, h⟩
  · have hlt := (List.getElem?_eq_some_iff.1 h).1
    rw [length_atoms, atomCount] at hlt
    rw [s.atoms_two_mul_add_one (by omega)] at h
    exact .inr (Option.some.inj h).symm

theorem mem_atoms {atom : Atom} (h : atom ∈ s.atoms) : atom ∈ s.words ∨ atom = separator := by
  obtain ⟨j, hj⟩ := List.mem_iff_getElem?.1 h
  rcases s.word_or_separator hj with ⟨i, -, hi⟩ | hsep
  · exact .inl (List.mem_of_getElem? hi)
  · exact .inr hsep

theorem atoms_ne_nil_iff : s.atoms ≠ [] ↔ s.words ≠ [] := by
  rw [← List.length_pos_iff, ← List.length_pos_iff, length_atoms, atomCount, wordCount]
  omega

/-- The word at an index is the first one of a sentence that does not satisfy a condition. -/
structure FirstRefused (P : String → Prop) (i : Nat) (w : String) : Prop where
  word : s.words[i]? = some w
  refused : ¬P w
  before : ∀ j < i, ∀ v, s.words[j]? = some v → P v

variable {s} {P Q : String → Prop} {i : Nat} {w : String}

theorem FirstRefused.mem (h : s.FirstRefused P i w) : w ∈ s.words :=
  List.mem_of_getElem? h.word

theorem FirstRefused.congr (hPQ : ∀ v ∈ s.words, P v ↔ Q v) (h : s.FirstRefused P i w) :
    s.FirstRefused Q i w where
  word := h.word
  refused hw := h.refused ((hPQ w h.mem).2 hw)
  before j hj v hv := (hPQ v (List.mem_of_getElem? hv)).1 (h.before j hj v hv)

theorem all_or_exists_firstRefused (P : String → Prop) (s : Sentence) :
    (∀ w ∈ s.words, P w) ∨ ∃ i w, s.FirstRefused P i w := by
  rcases forall_mem_or_exists_first P s.words with hall | ⟨i, w, hword, hrefused, hbefore⟩
  · exact .inl hall
  · exact .inr ⟨i, w, hword, hrefused, hbefore⟩

end Sentence
end Swell

/-!
# Blank characters and words

A character is blank when it has the Unicode property `White_Space`. A text is cut into words at
its blanks, however many stand together. Main statements: no word is empty, and none holds a blank;
a blank cuts a text into two whose words follow one another.
-/
namespace Swell.Text

/-- The code points with the property `White_Space`, as closed intervals in ascending order. -/
def blankIntervals : List (Nat × Nat) :=
  [(0x9, 0xD), (0x20, 0x20), (0x85, 0x85), (0xA0, 0xA0), (0x1680, 0x1680), (0x2000, 0x200A),
   (0x2028, 0x2029), (0x202F, 0x202F), (0x205F, 0x205F), (0x3000, 0x3000)]

def isBlank (c : Char) : Bool :=
  blankIntervals.any fun r => r.1 ≤ c.toNat && c.toNat ≤ r.2

theorem isBlank_space : isBlank ' ' = true := by decide

def isBlankText (s : String) : Bool :=
  s.toList.all isBlank

private def close (word : List Char) (found : List (List Char)) : List (List Char) :=
  if word.isEmpty then found else word :: found

/-- Reads one more character on the left of a text already cut: a blank closes the word that
starts behind it. -/
private def cut (c : Char) (cutText : List Char × List (List Char)) :
    List Char × List (List Char) :=
  if isBlank c then ([], close cutText.1 cutText.2) else (c :: cutText.1, cutText.2)

def wordsOfChars (cs : List Char) : List (List Char) :=
  let cutText := cs.foldr cut ([], [])
  close cutText.1 cutText.2

def words (s : String) : List String :=
  (wordsOfChars s.toList).map String.ofList

private theorem word_of_close {w : List Char} {found : List (List Char)}
    (hw : ∀ c ∈ w, isBlank c = false) (hf : ∀ v ∈ found, v ≠ [] ∧ ∀ c ∈ v, isBlank c = false) :
    ∀ v ∈ close w found, v ≠ [] ∧ ∀ c ∈ v, isBlank c = false := by
  intro v hv
  unfold close at hv
  split at hv
  · exact hf v hv
  · rcases List.mem_cons.1 hv with rfl | hv
    · exact ⟨by simp_all, hw⟩
    · exact hf v hv

private theorem word_of_cut (cs : List Char) :
    (∀ c ∈ (cs.foldr cut ([], [])).1, isBlank c = false) ∧
      ∀ v ∈ (cs.foldr cut ([], [])).2, v ≠ [] ∧ ∀ c ∈ v, isBlank c = false := by
  induction cs with
  | nil => simp
  | cons c cs ih =>
    simp only [List.foldr_cons]
    generalize cs.foldr cut ([], []) = p at ih ⊢
    unfold cut
    cases hc : isBlank c
    · refine ⟨?_, ih.2⟩
      intro d hd
      rcases List.mem_cons.1 hd with rfl | hd
      · exact hc
      · exact ih.1 d hd
    · exact ⟨by simp, word_of_close ih.1 ih.2⟩

/-- A word is a non-empty run of characters that are not blank. -/
theorem word_of_mem_wordsOfChars {cs w : List Char} (h : w ∈ wordsOfChars cs) :
    w ≠ [] ∧ ∀ c ∈ w, isBlank c = false :=
  word_of_close (word_of_cut cs).1 (word_of_cut cs).2 w h

private theorem close_append (w : List Char) (found more : List (List Char)) :
    close w (found ++ more) = close w found ++ more := by
  cases w <;> simp [close]

private theorem foldr_cut_append (cs : List Char) (more : List (List Char)) :
    cs.foldr cut ([], more) =
      ((cs.foldr cut ([], [])).1, (cs.foldr cut ([], [])).2 ++ more) := by
  induction cs with
  | nil => rfl
  | cons c cs ih =>
    rw [List.foldr_cons, List.foldr_cons, ih]
    unfold cut
    split
    · rw [close_append]
    · rfl

/-- A blank cuts a text into two, whose words have nothing to do with each other. -/
theorem wordsOfChars_append_blank {b : Char} (hb : isBlank b = true) (cs rest : List Char) :
    wordsOfChars (cs ++ b :: rest) = wordsOfChars cs ++ wordsOfChars rest := by
  have hcut : (b :: rest).foldr cut ([], []) = ([], wordsOfChars rest) := by
    rw [List.foldr_cons, cut, if_pos hb, wordsOfChars]
  rw [wordsOfChars, List.foldr_append, hcut, foldr_cut_append, close_append, ← wordsOfChars]

theorem wordsOfChars_of_word {w : List Char} (hne : w ≠ [])
    (hw : ∀ c ∈ w, isBlank c = false) : wordsOfChars w = [w] := by
  have hcut : w.foldr cut ([], []) = (w, []) := by
    clear hne
    induction w with
    | nil => rfl
    | cons c w ih =>
      rw [List.foldr_cons, ih fun d hd => hw d (List.mem_cons_of_mem c hd), cut,
        hw c List.mem_cons_self]
      rfl
  rw [wordsOfChars, hcut, close, if_neg (by simpa using hne)]

end Swell.Text

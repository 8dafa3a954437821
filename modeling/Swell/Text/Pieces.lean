/-!
# Pieces of a text

A text is cut at every occurrence of one character; the pieces may be empty. Main statements: put
together again the pieces give the text, and no piece holds the character.
-/
namespace Swell.Text

/-- The pieces of a list of characters between the occurrences of one character. -/
def piecesOfChars (mark : Char) : List Char → List (List Char)
  | [] => [[]]
  | c :: cs =>
    if c = mark then [] :: piecesOfChars mark cs
    else
      match piecesOfChars mark cs with
      | [] => [[c]]
      | piece :: rest => (c :: piece) :: rest

def pieces (mark : Char) (s : String) : List String :=
  (piecesOfChars mark s.toList).map String.ofList

theorem piecesOfChars_ne_nil (mark : Char) (cs : List Char) : piecesOfChars mark cs ≠ [] := by
  induction cs with
  | nil => simp [piecesOfChars]
  | cons c cs ih =>
    unfold piecesOfChars
    split
    · simp
    · split <;> simp

theorem intercalate_piecesOfChars (mark : Char) (cs : List Char) :
    [mark].intercalate (piecesOfChars mark cs) = cs := by
  induction cs with
  | nil => rfl
  | cons c cs ih =>
    have hne := piecesOfChars_ne_nil mark cs
    unfold piecesOfChars
    cases hp : piecesOfChars mark cs with
    | nil => exact absurd hp hne
    | cons piece rest =>
      rw [hp] at ih
      split
      · rename_i h
        subst h
        simpa [List.intercalate] using ih
      · cases rest with
        | nil => simpa [List.intercalate] using ih
        | cons next rest => simpa [List.intercalate] using ih

theorem not_mem_of_mem_piecesOfChars {mark : Char} {cs piece : List Char}
    (h : piece ∈ piecesOfChars mark cs) : mark ∉ piece := by
  induction cs generalizing piece with
  | nil => simp_all [piecesOfChars]
  | cons c cs ih =>
    unfold piecesOfChars at h
    split at h
    · rcases List.mem_cons.1 h with rfl | h
      · simp
      · exact ih h
    · rename_i hc
      split at h
      · simp_all [Ne.symm hc]
      · rename_i first rest hp
        rcases List.mem_cons.1 h with rfl | h
        · have := ih (hp ▸ List.mem_cons_self)
          simp [this, Ne.symm hc]
        · exact ih (hp ▸ List.mem_cons_of_mem _ h)

end Swell.Text

import Swell.Proofs.Recogniser.Drive
import Swell.Proofs.Sentence.Symbols
import Swell.Report

/-!
# Lines of a history

Main statements: each state of a history but the first has taken the atom at its place; so a
sentence that has been read to its end has a line for the seed, one for each of its words, in order,
and one for each separator between them, and each line is numbered and has no break.
-/
namespace Swell

namespace History

theorem map_some_filterMap {α β : Type} {f : α → Option β} {l : List α}
    (h : ∀ a ∈ l, (f a).isSome = true) : (l.filterMap f).map some = l.map f := by
  induction l with
  | nil => rfl
  | cons a l ih =>
    obtain ⟨ha, hl⟩ := List.forall_mem_cons.1 h
    obtain ⟨b, hb⟩ := Option.isSome_iff_exists.1 ha
    rw [List.filterMap_cons_some hb, List.map_cons, List.map_cons, ih hl, hb]

variable {atoms : List Atom} {h : History}

/-- The first state has taken nothing, and so there is an atom for each of the others. -/
theorem Reads.taken (hr : h.Reads atoms) {i : Nat} {s : State} (hs : h.get? (i + 1) = some s) :
    s.taken = h.consumed[i]? := by
  have hlength := hr.length
  rw [get?_eq_toList] at hs
  cases hl : h.toList with
  | nil => simp [hl] at hs
  | cons first rest =>
    have hfirst : first.taken = none := hr.first first (by rw [get?_eq_toList, hl]; rfl)
    have hconsumed : h.consumed = rest.filterMap State.taken := by
      rw [consumed, hl, List.filterMap_cons_none hfirst]
    have hall : ∀ t ∈ rest, t.taken.isSome = true := by
      rw [← List.filterMap_length_eq_length, ← hconsumed]
      rw [← length_toList, hl, List.length_cons] at hlength
      omega
    have hmap := congrArg (·[i]?) (map_some_filterMap hall)
    rw [hl, List.getElem?_cons_succ] at hs
    simp only [List.getElem?_map, hs, ← hconsumed, Option.map_some] at hmap
    obtain ⟨atom, hatom, htaken⟩ := Option.map_eq_some_iff.1 hmap
    rw [← htaken, hatom]

theorem exists_get?_of_lt {i : Nat} (hi : i < h.length) : ∃ s, h.get? i = some s := by
  rw [get?_eq_toList]
  exact ⟨_, List.getElem?_eq_getElem (by rwa [length_toList])⟩

theorem getElem?_lines (h : History) (i : Nat) : h.lines[i]? = (h.get? i).map State.line := by
  rw [lines, List.getElem?_map, get?_eq_toList]

end History

/-- A line of a history: a position, aligned at its right, and what is shown behind it. -/
def numberedLine (position : Nat) (shown : String) : String :=
  String.ofList (List.replicate (State.positionWidth - (toString position).length) ' ') ++
    toString position ++ "  " ++ shown

theorem State.line_eq (s : State) : s.line = numberedLine s.position s.label := rfl

namespace Text

/-- A text without any break in it, and with no blanks but spaces. -/
def IsOneLine (s : String) : Prop :=
  ∀ c ∈ s.toList, isBlank c = true → c = ' '

instance (s : String) : Decidable (IsOneLine s) :=
  List.decidableBAll (fun c => isBlank c = true → c = ' ') s.toList

theorem IsWord.isOneLine {w : String} (h : IsWord w) : IsOneLine w := by
  intro c hc hblank
  rw [h.2 c hc] at hblank
  cases hblank

theorem IsOneLine.append {s t : String} (hs : IsOneLine s) (ht : IsOneLine t) :
    IsOneLine (s ++ t) := by
  intro c hc
  rw [String.toList_append] at hc
  rcases List.mem_append.1 hc with hc | hc
  · exact hs c hc
  · exact ht c hc

theorem isOneLine_toString (n : Nat) : IsOneLine (toString n) := by
  intro c hc hblank
  rw [Nat.toString_eq_repr, Nat.toList_repr] at hc
  have hdigit := Nat.isDigit_of_mem_toDigits (by decide) (by decide) hc
  rw [isBlank_of_isDigit hdigit] at hblank
  cases hblank

theorem isOneLine_replicate (n : Nat) : IsOneLine (String.ofList (List.replicate n ' ')) := by
  intro c hc _
  rw [String.toList_ofList] at hc
  exact List.eq_of_mem_replicate hc

theorem isOneLine_numberedLine (position : Nat) {shown : String} (h : IsOneLine shown) :
    IsOneLine (numberedLine position shown) :=
  (((isOneLine_replicate _).append (isOneLine_toString _)).append (by decide)).append h

theorem IsWord.isBlankText_eq_false {w : String} (h : IsWord w) : isBlankText w = false := by
  obtain ⟨c, hc⟩ := List.exists_mem_of_ne_nil _ h.1
  rw [isBlankText, List.all_eq_false]
  exact ⟨c, hc, by simp [h.2 c hc]⟩

end Text

theorem State.isOneLine_line (s : State) (h : ∀ atom, s.taken = some atom → Text.IsOneLine atom) :
    Text.IsOneLine s.line := by
  refine Text.isOneLine_numberedLine _ ?_
  rw [label]
  split
  · decide
  · rename_i atom htaken
    split
    · decide
    · exact h atom htaken

namespace Sentence

/-- The lines of a sentence that has been read to its end: the seed, and then the words in order,
with a separator between neighbours. -/
structure HasLines (s : Sentence) (lines : List String) : Prop where
  length : lines.length = 2 * s.wordCount
  seed : lines[0]? = some (numberedLine 0 "(seed)")
  word : ∀ k w, s.words[k]? = some w → lines[2 * k + 1]? = some (numberedLine (2 * k + 1) w)
  separator : ∀ k, 0 < k → k < s.wordCount →
    lines[2 * k]? = some (numberedLine (2 * k) "(separator)")
  oneLine : ∀ line ∈ lines, Text.IsOneLine line

end Sentence

namespace History

variable {s : Sentence}

/-- The line of a state behind the first shows the atom at its place. -/
theorem getElem?_lines_whole {i : Nat} {atom : Atom} (h : s.atoms[i]? = some atom) :
    (whole s).lines[i + 1]? = some (numberedLine (i + 1)
      (if Text.isBlankText atom then "(separator)" else atom)) := by
  have hr := reads_whole s
  have hi : i + 1 < (whole s).length := by
    have hlt := (List.getElem?_eq_some_iff.1 h).1
    rw [length_whole]
    omega
  obtain ⟨t, ht⟩ := exists_get?_of_lt hi
  have htaken : t.taken = some atom := by rw [hr.taken ht, consumed_whole, h]
  rw [getElem?_lines, ht, Option.map_some, State.line_eq, hr.position _ t ht, State.label, htaken]

theorem hasLines_whole (hw : s.words ≠ []) : s.HasLines (whole s).lines where
  length := by rw [length_lines, length_whole_eq_two_mul hw]
  seed := by
    have hr := reads_whole s
    obtain ⟨t, ht⟩ := exists_get?_of_lt (h := whole s) (i := 0) (by rw [length_whole]; omega)
    rw [getElem?_lines, ht, Option.map_some, State.line_eq, hr.position _ t ht, State.label,
      hr.first t ht]
  word k w hk := by
    have hword := Text.isWord_of_mem_words (List.mem_of_getElem? hk)
    rw [getElem?_lines_whole (by rw [s.atoms_two_mul, hk]), hword.isBlankText_eq_false]
    rfl
  separator k hpos hk := by
    obtain ⟨j, rfl⟩ : ∃ j, k = j + 1 := ⟨k - 1, by omega⟩
    have hatom := s.atoms_two_mul_add_one hk
    rw [show 2 * (j + 1) = 2 * j + 1 + 1 by omega, getElem?_lines_whole hatom]
    rfl
  oneLine line hline := by
    obtain ⟨t, ht, rfl⟩ := List.mem_map.1 hline
    refine t.isOneLine_line fun atom htaken => ?_
    have hatom : atom ∈ s.atoms := by
      rw [← consumed_whole, consumed, List.mem_filterMap]
      exact ⟨t, ht, htaken⟩
    rcases s.mem_atoms hatom with hword | rfl
    · exact (Text.isWord_of_mem_words hword).isOneLine
    · decide

end History
end Swell

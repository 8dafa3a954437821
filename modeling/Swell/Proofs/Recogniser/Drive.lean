import Swell.Proofs.Recogniser.Single
import Swell.Proofs.Recogniser.Steps
import Swell.Proofs.Sentence.Words

/-!
# Driving a recogniser of single atoms through a sentence

A sentence is read with one run of the recogniser for each of its atoms. Main statements: if all
atoms are admitted, the reading ends with the history of the whole sentence, which is the same for
every recogniser; otherwise it fails at the first atom that is not admitted, with that atom and its
index. Where separators are admitted, only the words decide.
-/
namespace Swell

namespace History

/-- The history after a number of further atoms, or after all atoms if fewer are left. -/
def advanceBy : Nat → History → History
  | 0, h => h
  | n + 1, h =>
    match h.advance? with
    | some next => advanceBy n (h.push next)
    | none => h

theorem advanceBy_succ {h : History} {s : State} {atom : Atom} {rest : List Atom}
    (hs : h.last? = some s) (hr : s.remaining = atom :: rest) (n : Nat) :
    h.advanceBy (n + 1) = (h.push ⟨rest, some atom, s.position + 1⟩).advanceBy n := by
  rw [advanceBy, advance?_eq_some hs hr]

theorem grows_advanceBy (n : Nat) (h : History) : h.Grows (h.advanceBy n) := by
  induction n generalizing h with
  | zero => exact .refl
  | succ n ih =>
    rw [advanceBy]
    split
    · next next hn =>
      obtain ⟨s, hs, hadv⟩ := Option.bind_eq_some_iff.1 hn
      exact (Grows.take .refl hs hadv).trans (ih _)
    · exact .refl

theorem length_advanceBy {n : Nat} {h : History} {s : State} (hs : h.last? = some s)
    (hn : n ≤ s.remaining.length) : (h.advanceBy n).length = h.length + n := by
  induction n generalizing h s with
  | zero => rfl
  | succ n ih =>
    cases hr : s.remaining with
    | nil => simp [hr] at hn
    | cons atom rest =>
      rw [advanceBy_succ hs hr, ih (s := ⟨rest, some atom, s.position + 1⟩) rfl, length_push]
      · omega
      · rw [hr, List.length_cons] at hn
        exact Nat.le_of_succ_le_succ hn

theorem last?_advanceBy {n : Nat} {h : History} {s : State} (hs : h.last? = some s)
    (hn : n ≤ s.remaining.length) :
    ∃ s', (h.advanceBy n).last? = some s' ∧ s'.position = s.position + n ∧
      s'.remaining = s.remaining.drop n := by
  induction n generalizing h s with
  | zero => exact ⟨s, hs, rfl, rfl⟩
  | succ n ih =>
    cases hr : s.remaining with
    | nil => simp [hr] at hn
    | cons atom rest =>
      rw [hr] at hn
      obtain ⟨s', hs', hposition, hrest⟩ := ih (s := ⟨rest, some atom, s.position + 1⟩)
        (last?_push h _) (Nat.le_of_succ_le_succ hn)
      rw [advanceBy_succ hs hr]
      exact ⟨s', hs', by simp only [hposition]; omega, hrest⟩

/-- The history of a sentence that has been read to its end. -/
def whole (s : Sentence) : History :=
  (ofSentence s).advanceBy s.atoms.length

theorem reads_whole (s : Sentence) : (whole s).Reads s.atoms :=
  (reads_ofAtoms s.atoms).grows (grows_advanceBy _ _)

theorem length_whole (s : Sentence) : (whole s).length = s.atoms.length + 1 := by
  have hstart : (ofSentence s).last? = some (State.start s.atoms) := rfl
  have hall : s.atoms.length ≤ (State.start s.atoms).remaining.length := Nat.le_refl _
  rw [whole, length_advanceBy hstart hall, Nat.add_comm]
  rfl

@[simp] theorem isComplete_whole (s : Sentence) : (whole s).isComplete = true :=
  (reads_whole s).isComplete_iff.2 (length_whole s)

@[simp] theorem consumed_whole (s : Sentence) : (whole s).consumed = s.atoms := by
  rw [(reads_whole s).consumed_eq_take, length_whole, Nat.add_sub_cancel, List.take_length]

/-- The words with a separator between neighbours, and the state in front of the first word. -/
theorem length_whole_eq_two_mul {s : Sentence} (hw : s.words ≠ []) :
    (whole s).length = 2 * s.wordCount := by
  have hpos : 0 < s.wordCount := List.length_pos_iff.2 hw
  rw [length_whole, s.length_atoms, Sentence.atomCount]
  omega

variable {admits : Atom → Bool} {expected : List Descriptor}

/-- Every run takes one of the unread atoms, as far as these are admitted. -/
theorem stepTimes_takeIf_eq_ok (n : Nat) {h : History} {s : State} (hs : h.last? = some s)
    (hn : n ≤ s.remaining.length)
    (hall : ∀ i < n, ∀ a, s.remaining[i]? = some a → admits a = true) :
    stepTimes (takeIf admits expected) n h = .ok (h.advanceBy n) := by
  induction n generalizing h s with
  | zero => rfl
  | succ n ih =>
    cases hr : s.remaining with
    | nil => simp [hr] at hn
    | cons atom rest =>
      rw [hr] at hn hall
      rw [stepTimes, takeIf_eq_ok admits expected hs hr (hall 0 (Nat.succ_pos n) atom rfl),
        advanceBy_succ hs hr]
      exact ih (s := ⟨rest, some atom, s.position + 1⟩) rfl (Nat.le_of_succ_le_succ hn)
        (fun i hi a ha => hall (i + 1) (Nat.succ_lt_succ hi) a ha)

theorem takeIf_advanceBy_eq_error {h : History} {s : State} (hs : h.last? = some s) {j : Nat}
    {atom : Atom} (hatom : s.remaining[j]? = some atom) (hrefused : admits atom = false) :
    (h.advanceBy j).takeIf admits expected = .error (.mismatch (s.position + j) expected atom) := by
  obtain ⟨hj, rfl⟩ := List.getElem?_eq_some_iff.1 hatom
  obtain ⟨s', hs', hposition, hrest⟩ := last?_advanceBy hs (Nat.le_of_lt hj)
  rw [List.drop_eq_getElem_cons hj] at hrest
  rw [takeIf_eq_error admits expected hs' hrest hrefused, hposition]

theorem stepTimes_takeIf_eq_error (n : Nat) {h : History} {s : State} (hs : h.last? = some s)
    {j : Nat} {atom : Atom} (hj : j < n) (hatom : s.remaining[j]? = some atom)
    (hrefused : admits atom = false)
    (hbefore : ∀ i < j, ∀ a, s.remaining[i]? = some a → admits a = true) :
    stepTimes (takeIf admits expected) n h =
      .error (.mismatch (s.position + j) expected atom) := by
  have hlength : j < s.remaining.length := (List.getElem?_eq_some_iff.1 hatom).1
  obtain ⟨k, rfl⟩ := Nat.exists_eq_add_of_lt hj
  rw [Nat.add_assoc, stepTimes_add, stepTimes_takeIf_eq_ok j hs (Nat.le_of_lt hlength) hbefore]
  change stepTimes (takeIf admits expected) (k + 1) (h.advanceBy j) = _
  rw [stepTimes, takeIf_advanceBy_eq_error hs hatom hrefused]

end History

theorem Sentence.wordCount_eq_zero_iff (s : Sentence) : s.wordCount = 0 ↔ s.words = [] :=
  List.length_eq_zero_iff

namespace Recogniser

theorem drive_eq_stepTimes (r : Recogniser) {s : Sentence} (hw : s.words ≠ []) :
    drive r s = stepTimes r.parse s.atoms.length (History.ofSentence s) := by
  rw [drive, repetitions, if_neg (mt s.wordCount_eq_zero_iff.1 hw), s.length_atoms]
  simp only [parse]

theorem drive_eq_error_of_no_words (r : Recogniser) {s : Sentence} (hw : s.words = []) :
    drive r s = .error (.structural .emptySentence) := by
  rw [drive, repetitions, if_pos (s.wordCount_eq_zero_iff.2 hw)]

variable {r : Recogniser} (hr : r.isSingle = true)
include hr

theorem parse_eq_takeIf : r.parse = History.takeIf r.admits r.expected :=
  funext (r.parse_of_isSingle hr)

/-- A sentence of atoms that are all admitted is read to its end. -/
theorem drive_eq_ok {s : Sentence} (hw : s.words ≠ [])
    (hall : ∀ atom ∈ s.atoms, r.admits atom = true) : drive r s = .ok (History.whole s) := by
  have hstart : (History.ofSentence s).last? = some (State.start s.atoms) := rfl
  rw [drive_eq_stepTimes r hw, parse_eq_takeIf hr]
  exact History.stepTimes_takeIf_eq_ok _ hstart (Nat.le_refl _)
    (fun _ _ a ha => hall a (List.mem_of_getElem? ha))

/-- The first atom of a sentence that is not admitted is the one that is reported. -/
theorem drive_eq_error {s : Sentence} {j : Nat} {atom : Atom} (hatom : s.atoms[j]? = some atom)
    (hrefused : r.admits atom = false)
    (hbefore : ∀ i < j, ∀ a, s.atoms[i]? = some a → r.admits a = true) :
    drive r s = .error (.mismatch j r.expected atom) := by
  have hj : j < s.atoms.length := (List.getElem?_eq_some_iff.1 hatom).1
  have hw : s.words ≠ [] := s.atoms_ne_nil_iff.1 (List.ne_nil_of_mem (List.mem_of_getElem? hatom))
  have hstart : (History.ofSentence s).last? = some (State.start s.atoms) := rfl
  have hzero : (State.start s.atoms).position + j = j := Nat.zero_add j
  rw [drive_eq_stepTimes r hw, parse_eq_takeIf hr,
    History.stepTimes_takeIf_eq_error _ hstart hj hatom hrefused hbefore, hzero]

/-- Where a sentence has words, the runs come to the end of neither states nor atoms. -/
theorem drive_ne_structural {s : Sentence} (hw : s.words ≠ []) (fault : StructuralFault) :
    drive r s ≠ .error (.structural fault) := by
  intro e
  rcases forall_mem_or_exists_first (fun atom => r.admits atom = true) s.atoms with
    hall | ⟨j, atom, hatom, hrefused, hbefore⟩
  · rw [drive_eq_ok hr hw hall] at e
    cases e
  · rw [drive_eq_error hr hatom (Bool.eq_false_iff.2 hrefused) hbefore] at e
    cases e

variable (hsep : r.admits separator = true)
include hsep

theorem drive_eq_ok_of_words {s : Sentence} (hw : s.words ≠ [])
    (hall : ∀ w ∈ s.words, r.admits w = true) : drive r s = .ok (History.whole s) := by
  refine drive_eq_ok hr hw fun atom hatom => ?_
  rcases s.mem_atoms hatom with hword | rfl
  · exact hall atom hword
  · exact hsep

theorem drive_eq_error_of_word {s : Sentence} {i : Nat} {w : String}
    (hfirst : s.FirstRefused (fun w => r.admits w = true) i w) :
    drive r s = .error (.mismatch (2 * i) r.expected w) := by
  have hatom : s.atoms[2 * i]? = some w := by rw [s.atoms_two_mul, hfirst.word]
  refine drive_eq_error hr hatom (by simpa using hfirst.refused) fun j hj a ha => ?_
  rcases s.word_or_separator ha with ⟨k, rfl, hk⟩ | rfl
  · exact hfirst.before k (by omega) a hk
  · exact hsep

/-- A reading finds no words, or admits all of them, or fails at the first one that it does not
admit. -/
theorem drive_cases (s : Sentence) :
    (s.words = [] ∧ drive r s = .error (.structural .emptySentence)) ∨
    (s.words ≠ [] ∧ (∀ w ∈ s.words, r.admits w = true) ∧ drive r s = .ok (History.whole s)) ∨
    ∃ i w, s.FirstRefused (fun w => r.admits w = true) i w ∧
      drive r s = .error (.mismatch (2 * i) r.expected w) := by
  by_cases hw : s.words = []
  · exact .inl ⟨hw, drive_eq_error_of_no_words r hw⟩
  · right
    rcases Sentence.all_or_exists_firstRefused (fun w => r.admits w = true) s with
      hall | ⟨i, w, hfirst⟩
    · exact .inl ⟨hw, hall, drive_eq_ok_of_words hr hsep hw hall⟩
    · exact .inr ⟨i, w, hfirst, drive_eq_error_of_word hr hsep hfirst⟩

end Recogniser
end Swell

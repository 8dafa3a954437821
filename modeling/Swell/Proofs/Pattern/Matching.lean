import Mathlib.Data.List.Basic
import Swell.Pattern.Expr

/-!
# What pattern expressions match

A match is a stretch of the text between two places. Main statements: the places that `reach`
finds are exactly the ends of the matches that start in one of the given places; hence `found`
holds exactly if some stretch of the text is matched, and between anchors exactly if the text is
matched from end to end.
-/
namespace Swell.Pattern

/-- A number of steps of a relation between places. -/
def Steps (R : Nat → Nat → Prop) : Nat → Nat → Nat → Prop
  | 0, i, j => i = j
  | n + 1, i, j => ∃ k, R i k ∧ Steps R n k j

def charBefore? (text : List Char) : Nat → Option Char
  | 0 => none
  | i + 1 => text[i]?

/-- The expression matches the stretch between two places of the text. -/
def Expr.Matches [Engine] (text : List Char) : Expr → Nat → Nat → Prop
  | .empty, i, j => i = j
  | .one members, i, j => j = i + 1 ∧ ∃ c, text[i]? = some c ∧ members.accepts c = true
  | .look condition, i, j =>
    i = j ∧ i ≤ text.length ∧ condition.holds (charBefore? text i) text[i]? = true
  | .next first second, i, j => ∃ k, first.Matches text i k ∧ second.Matches text k j
  | .either left right, i, j => left.Matches text i j ∨ right.Matches text i j
  | .repeated inner least most, i, j =>
    ∃ n, least ≤ n ∧ (∀ m, most = some m → n ≤ max least m) ∧
      Steps (fun i j => inner.Matches text i j) n i j

/-- The move leads from each place to those that the relation allows. -/
def Follows (move : Places → Places) (R : Nat → Nat → Prop) : Prop :=
  ∀ s j, (move s).testBit j = true ↔ ∃ i, s.testBit i = true ∧ R i j

variable {move : Places → Places} {R : Nat → Nat → Prop}

theorem testBit_of_steps {s : Places}
    (hclosed : ∀ i j, s.testBit i = true → R i j → s.testBit j = true) {n i j : Nat}
    (hi : s.testBit i = true) (h : Steps R n i j) : s.testBit j = true := by
  induction n generalizing i with
  | zero =>
    obtain rfl : i = j := h
    exact hi
  | succ n ih =>
    obtain ⟨k, hik, hsteps⟩ := h
    exact ih (hclosed i k hi hik) hsteps

/-- A set that a move does not change is what any number of steps from it leads to. -/
theorem Follows.steps_of_fixed (hm : Follows move R) {s : Places} (hs : move s = s) (n j : Nat) :
    s.testBit j = true ↔ ∃ i, s.testBit i = true ∧ Steps R n i j := by
  constructor
  · intro hj
    induction n generalizing j with
    | zero => exact ⟨j, hj, rfl⟩
    | succ n ih =>
      obtain ⟨k, hk, hsteps⟩ := ih j hj
      rw [← hs] at hk
      obtain ⟨i, hi, hik⟩ := (hm s k).1 hk
      exact ⟨i, hi, k, hik, hsteps⟩
  · rintro ⟨i, hi, hsteps⟩
    refine testBit_of_steps (fun i j hi hij => ?_) hi hsteps
    rw [← hs]
    exact (hm s j).2 ⟨i, hi, hij⟩

theorem Follows.moveTimes (hm : Follows move R) (n : Nat) :
    Follows (moveTimes move n) (Steps R n) := by
  induction n with
  | zero =>
    intro s j
    simp [Pattern.moveTimes, Steps]
  | succ n ih =>
    intro s j
    rw [Pattern.moveTimes]
    split
    · next hs => exact hm.steps_of_fixed hs (n + 1) j
    · rw [ih]
      constructor
      · rintro ⟨k, hk, hsteps⟩
        obtain ⟨i, hi, hik⟩ := (hm s k).1 hk
        exact ⟨i, hi, k, hik, hsteps⟩
      · rintro ⟨i, hi, k, hik, hsteps⟩
        exact ⟨k, (hm s k).2 ⟨i, hi, hik⟩, hsteps⟩

theorem Follows.moveUpTo (hm : Follows move R) (n : Nat) :
    Follows (moveUpTo move n) (fun i j => ∃ k ≤ n, Steps R k i j) := by
  induction n with
  | zero =>
    intro s j
    constructor
    · intro hj
      exact ⟨j, hj, 0, Nat.le_refl 0, rfl⟩
    · rintro ⟨i, hi, k, hk, hsteps⟩
      obtain rfl : k = 0 := by omega
      obtain rfl : i = j := hsteps
      exact hi
  | succ n ih =>
    have hor : ∀ s k, (s ||| move s).testBit k = true ↔
        s.testBit k = true ∨ ∃ i, s.testBit i = true ∧ R i k := by
      intro s k
      rw [Nat.testBit_or, Bool.or_eq_true, hm s k]
    intro s j
    rw [Pattern.moveUpTo]
    split
    · next hs =>
      constructor
      · intro hj
        exact ⟨j, hj, 0, Nat.zero_le _, rfl⟩
      · rintro ⟨i, hi, k, -, hsteps⟩
        refine testBit_of_steps (fun i l hi hil => ?_) hi hsteps
        rw [← hs]
        exact (hor s l).2 (.inr ⟨i, hi, hil⟩)
    · rw [ih]
      constructor
      · rintro ⟨l, hl, k, hk, hsteps⟩
        rcases (hor s l).1 hl with hl | ⟨i, hi, hil⟩
        · exact ⟨l, hl, k, by omega, hsteps⟩
        · exact ⟨i, hi, k + 1, by omega, l, hil, hsteps⟩
      · rintro ⟨i, hi, k, hk, hsteps⟩
        cases k with
        | zero => exact ⟨i, (hor s i).2 (.inl hi), 0, Nat.zero_le _, hsteps⟩
        | succ k =>
          obtain ⟨l, hil, hsteps⟩ := hsteps
          exact ⟨l, (hor s l).2 (.inr ⟨i, hi, hil⟩), k, by omega, hsteps⟩

theorem steps_append {m n i k j : Nat} (hm : Steps R m i k) (hn : Steps R n k j) :
    Steps R (m + n) i j := by
  induction m generalizing i with
  | zero =>
    obtain rfl : i = k := hm
    rwa [Nat.zero_add]
  | succ m ih =>
    obtain ⟨l, hil, hsteps⟩ := hm
    rw [Nat.succ_add]
    exact ⟨l, hil, ih hsteps⟩

theorem exists_of_steps_add {m n i j : Nat} (h : Steps R (m + n) i j) :
    ∃ k, Steps R m i k ∧ Steps R n k j := by
  induction m generalizing i with
  | zero =>
    rw [Nat.zero_add] at h
    exact ⟨i, rfl, h⟩
  | succ m ih =>
    rw [Nat.succ_add] at h
    obtain ⟨l, hil, hsteps⟩ := h
    obtain ⟨k, hlk, hkj⟩ := ih hsteps
    exact ⟨k, ⟨l, hil, hlk⟩, hkj⟩

/-- The relation leads from a place to itself or to a later place of a text of some length. -/
def Forward (length : Nat) (R : Nat → Nat → Prop) : Prop :=
  ∀ i j, R i j → i = j ∨ i < j ∧ j ≤ length

variable {length : Nat}

theorem Forward.steps (hf : Forward length R) (n : Nat) : Forward length (Steps R n) := by
  induction n with
  | zero => exact fun i j h => .inl h
  | succ n ih =>
    rintro i j ⟨k, hik, hkj⟩
    have h₁ := hf i k hik
    have h₂ := ih k j hkj
    omega

/-- Steps that stay where they are can be left out, so no more are needed than there are places
on the way. -/
theorem Forward.exists_short (hf : Forward length R) (n : Nat) {i j : Nat}
    (h : Steps R n i j) : ∃ k, k ≤ j - i ∧ Steps R k i j := by
  induction n generalizing i with
  | zero =>
    obtain rfl : i = j := h
    exact ⟨0, Nat.zero_le _, rfl⟩
  | succ n ih =>
    obtain ⟨l, hil, hsteps⟩ := h
    obtain ⟨k, hk, hshort⟩ := ih hsteps
    rcases hf i l hil with rfl | hlt
    · exact ⟨k, hk, hshort⟩
    · have hlj := hf.steps n l j hsteps
      exact ⟨k + 1, by omega, l, hil, hshort⟩

theorem testBit_marks (p : Option Char → Option Char → Bool) (before : Option Char)
    (cs : List Char) (i : Nat) :
    (marks p before cs).testBit i = true ↔
      i ≤ cs.length ∧ p (if i = 0 then before else charBefore? cs i) cs[i]? = true := by
  induction cs generalizing before i with
  | nil =>
    cases i with
    | zero =>
      rw [testBit_marks_zero]
      simp
    | succ i =>
      have hfalse : (marks p before []).testBit (i + 1) = false := by
        rw [marks, Nat.testBit_add_one]
        cases p before none <;> simp
      simp [hfalse]
  | cons c cs ih =>
    cases i with
    | zero =>
      rw [testBit_marks_zero]
      simp
    | succ i =>
      rw [testBit_marks_succ, ih]
      cases i with
      | zero => simp [charBefore?]
      | succ i => simp [charBefore?]

namespace Expr

variable [Engine] (text : List Char)

theorem forward_matches (e : Expr) : Forward text.length (e.Matches text) := by
  induction e with
  | empty => exact fun i j h => .inl h
  | one members =>
    rintro i j ⟨rfl, c, hc, -⟩
    have hi := (List.getElem?_eq_some_iff.1 hc).1
    omega
  | look condition => exact fun i j h => .inl h.1
  | next first second ih₁ ih₂ =>
    rintro i j ⟨k, hik, hkj⟩
    have h₁ := ih₁ i k hik
    have h₂ := ih₂ k j hkj
    omega
  | either left right ih₁ ih₂ => exact fun i j h => h.elim (ih₁ i j) (ih₂ i j)
  | repeated inner least most ih =>
    rintro i j ⟨n, -, -, hsteps⟩
    exact ih.steps n i j hsteps

theorem follows_reach_repeated {inner : Expr} (least : Nat) (most : Option Nat)
    (ih : Follows (inner.reach text) (inner.Matches text)) :
    Follows ((repeated inner least most).reach text)
      ((repeated inner least most).Matches text) := by
  intro s j
  have hforward := inner.forward_matches text
  have htimes := ih.moveTimes least
  cases most with
  | some m =>
    simp only [reach, Matches]
    rw [ih.moveUpTo (m - least)]
    constructor
    · rintro ⟨l, hl, k, hk, hsteps⟩
      obtain ⟨i, hi, hleast⟩ := (htimes s l).1 hl
      refine ⟨i, hi, least + k, Nat.le_add_right _ _, ?_, steps_append hleast hsteps⟩
      intro m' hm'
      obtain rfl : m = m' := by simpa using hm'
      omega
    · rintro ⟨i, hi, n, hleast, hmost, hsteps⟩
      have hm := hmost m rfl
      obtain ⟨k, rfl⟩ := Nat.exists_eq_add_of_le hleast
      obtain ⟨l, hil, hlj⟩ := exists_of_steps_add hsteps
      exact ⟨l, (htimes s l).2 ⟨i, hi, hil⟩, k, by omega, hlj⟩
  | none =>
    simp only [reach, Matches]
    rw [ih.moveUpTo (text.length + 1)]
    constructor
    · rintro ⟨l, hl, k, -, hsteps⟩
      obtain ⟨i, hi, hleast⟩ := (htimes s l).1 hl
      exact ⟨i, hi, least + k, Nat.le_add_right _ _, by simp, steps_append hleast hsteps⟩
    · rintro ⟨i, hi, n, hleast, -, hsteps⟩
      obtain ⟨k, rfl⟩ := Nat.exists_eq_add_of_le hleast
      obtain ⟨l, hil, hlj⟩ := exists_of_steps_add hsteps
      obtain ⟨k', hk', hshort⟩ := hforward.exists_short k hlj
      have hlj' := hforward.steps k' l j hshort
      exact ⟨l, (htimes s l).2 ⟨i, hi, hil⟩, k', by omega, hshort⟩

/-- The places that `reach` finds are the ends of the matches from the given places. -/
theorem follows_reach (e : Expr) : Follows (e.reach text) (e.Matches text) := by
  induction e with
  | empty =>
    intro s j
    simp [reach, Matches]
  | one members =>
    intro s j
    rw [reach, Nat.mul_comm, ← Nat.pow_one 2, Nat.testBit_mul_two_pow]
    constructor
    · intro h
      simp only [Bool.and_eq_true, decide_eq_true_eq, Nat.testBit_and, testBit_marks] at h
      obtain ⟨hj, hs, -, hany⟩ := h
      obtain ⟨c, hc, haccepts⟩ := (Option.any_eq_true _ _).1 hany
      exact ⟨j - 1, hs, by omega, c, hc, haccepts⟩
    · rintro ⟨i, hi, rfl, c, hc, haccepts⟩
      have hlt := (List.getElem?_eq_some_iff.1 hc).1
      rw [Bool.and_eq_true, decide_eq_true_eq, Nat.testBit_and, Bool.and_eq_true, testBit_marks,
        Nat.add_sub_cancel]
      exact ⟨Nat.le_add_left 1 i, hi, Nat.le_of_lt hlt, by simp [hc, haccepts]⟩
  | look condition =>
    intro s j
    rw [reach, Nat.testBit_and, Bool.and_eq_true, testBit_marks]
    have hbefore : (if j = 0 then none else charBefore? text j) = charBefore? text j := by
      cases j <;> simp [charBefore?]
    rw [hbefore]
    constructor
    · rintro ⟨hs, hle, hholds⟩
      exact ⟨j, hs, rfl, hle, hholds⟩
    · rintro ⟨i, hs, rfl, hle, hholds⟩
      exact ⟨hs, hle, hholds⟩
  | next first second ih₁ ih₂ =>
    intro s j
    rw [reach, ih₂]
    constructor
    · rintro ⟨k, hk, hkj⟩
      obtain ⟨i, hi, hik⟩ := (ih₁ s k).1 hk
      exact ⟨i, hi, k, hik, hkj⟩
    · rintro ⟨i, hi, k, hik, hkj⟩
      exact ⟨k, (ih₁ s k).2 ⟨i, hi, hik⟩, hkj⟩
  | either left right ih₁ ih₂ =>
    intro s j
    rw [reach, Nat.testBit_or, Bool.or_eq_true, ih₁, ih₂]
    simp only [Matches, and_or_left, exists_or]
  | repeated inner least most ih => exact follows_reach_repeated text least most ih

theorem found_iff (e : Expr) :
    e.found text = true ↔ ∃ i j, i ≤ text.length ∧ e.Matches text i j := by
  have hall : ∀ i, (allPlaces text).testBit i = true ↔ i ≤ text.length := by
    intro i
    rw [allPlaces, Nat.pow_eq, Nat.testBit_two_pow_sub_one, decide_eq_true_eq]
    omega
  rw [found, bne_iff_ne]
  constructor
  · intro h
    obtain ⟨j, hj⟩ := Nat.exists_testBit_of_ne_zero h
    obtain ⟨i, hi, hmatch⟩ := (e.follows_reach text _ j).1 hj
    exact ⟨i, j, (hall i).1 hi, hmatch⟩
  · rintro ⟨i, j, hi, hmatch⟩ hzero
    have hj := (e.follows_reach text _ j).2 ⟨i, (hall i).2 hi, hmatch⟩
    simp [hzero] at hj

def wholly (inner : Expr) : Expr :=
  .next (.look .textStart) (.next inner (.look .textEnd))

/-- Anchors leave the matches of the text from end to end. -/
theorem found_wholly_iff (inner : Expr) :
    (wholly inner).found text = true ↔ inner.Matches text 0 text.length := by
  have hstart : ∀ i, Look.textStart.holds (charBefore? text i) text[i]? = true →
      i ≤ text.length → i = 0 := by
    intro i h hi
    cases i with
    | zero => rfl
    | succ i =>
      rw [charBefore?, List.getElem?_eq_getElem hi] at h
      simp [Look.holds] at h
  have hend : ∀ j, Look.textEnd.holds (charBefore? text j) text[j]? = true →
      j ≤ text.length → j = text.length := by
    intro j h hj
    rw [Look.holds, Option.isNone_iff_eq_none, List.getElem?_eq_none_iff] at h
    exact Nat.le_antisymm hj h
  rw [found_iff]
  constructor
  · rintro ⟨i, j, -, k, ⟨rfl, hi, hlook⟩, l, hinner, rfl, hl, hlook'⟩
    obtain rfl := hstart i hlook hi
    obtain rfl := hend l hlook' hl
    exact hinner
  · intro h
    refine ⟨0, text.length, Nat.zero_le _, 0, ⟨rfl, Nat.zero_le _, rfl⟩, text.length, h, rfl,
      Nat.le_refl _, ?_⟩
    rw [Look.holds, List.getElem?_eq_none (Nat.le_refl _)]
    rfl

theorem one_matches_whole_iff (members : CharClass) :
    (one members).Matches text 0 text.length ↔
      ∃ c, text = [c] ∧ members.accepts c = true := by
  constructor
  · rintro ⟨hlen, c, hc, haccepts⟩
    obtain ⟨d, rfl⟩ := List.length_eq_one_iff.1 hlen
    obtain rfl : d = c := by simpa using hc
    exact ⟨d, rfl, haccepts⟩
  · rintro ⟨c, rfl, haccepts⟩
    exact ⟨rfl, c, rfl, haccepts⟩

theorem two_match_whole_iff (first second : CharClass) :
    (next (one first) (one second)).Matches text 0 text.length ↔
      ∃ c d, text = [c, d] ∧ first.accepts c = true ∧ second.accepts d = true := by
  constructor
  · rintro ⟨k, ⟨rfl, c, hc, hfirst⟩, hlen, d, hd, hsecond⟩
    obtain ⟨a, b, rfl⟩ := List.length_eq_two.1 hlen
    obtain rfl : a = c := by simpa using hc
    obtain rfl : b = d := by simpa using hd
    exact ⟨a, b, rfl, hfirst, hsecond⟩
  · rintro ⟨c, d, rfl, hfirst, hsecond⟩
    exact ⟨1, ⟨rfl, c, rfl, hfirst⟩, rfl, d, rfl, hsecond⟩

end Expr
end Swell.Pattern

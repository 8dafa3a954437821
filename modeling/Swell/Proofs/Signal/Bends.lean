import Mathlib.Algebra.Order.Field.Basic
import Mathlib.Algebra.Order.Field.Rat
import Mathlib.Data.List.Chain
import Mathlib.Data.List.GetD
import Mathlib.Tactic.FieldSimp
import Mathlib.Tactic.Linarith
import Mathlib.Tactic.Ring
import Swell.Signal.Spline

/-!
# The bends of a spline

The equations for the bends are solved by elimination from the first row to the last and by
substitution back. Main statements, over rational numbers and for points whose places increase:
elimination keeps every diagonal entry above the entry next to it, so nothing is divided by zero;
what elimination and substitution give are the only values that satisfy the equations.
-/
namespace Swell

namespace BendRow

/-- The equation that the row stands for. -/
def Holds (row : BendRow ℚ) (before here after : ℚ) : Prop :=
  row.lower * before + row.diag * here + row.upper * after = row.rhs

/-- The equation that a reduced row stands for: the bend before does not occur in it. -/
def HoldsReduced (row : BendRow ℚ) (here after : ℚ) : Prop :=
  row.diag * here + row.upper * after = row.rhs

/-- The values satisfy the equations one after the other, with a given value before the first and
zero behind the last. -/
def SolvedBy : (rows : List (BendRow ℚ)) → (before : ℚ) → List ℚ → Prop
  | [], _, [] => True
  | row :: rows, before, b :: bs => row.Holds before b (bs.headD 0) ∧ SolvedBy rows b bs
  | _, _, _ => False

/-- The values satisfy the equations of reduced rows, with zero behind the last. -/
def SolvedReducedBy : (rows : List (BendRow ℚ)) → List ℚ → Prop
  | [], [] => True
  | row :: rows, b :: bs => row.HoldsReduced b (bs.headD 0) ∧ SolvedReducedBy rows bs
  | _, _ => False

theorem reduce_eq (before row : BendRow ℚ) :
    reduce before row = { row with
      diag := row.diag - row.lower / before.diag * before.upper
      rhs := row.rhs - row.lower / before.diag * before.rhs } := rfl

/-- Where the row before holds, a row says the same before and after it is reduced. -/
theorem holdsReduced_reduce_iff {before : BendRow ℚ} (row : BendRow ℚ) {x y z : ℚ}
    (hpivot : before.diag ≠ 0) (hbefore : before.HoldsReduced x y) :
    (reduce before row).HoldsReduced y z ↔ row.Holds x y z := by
  rw [HoldsReduced] at hbefore
  rw [reduce_eq, HoldsReduced, Holds, ← hbefore]
  have hcancel : row.lower / before.diag * (before.diag * x) = row.lower * x := by
    field_simp
  rw [mul_add, hcancel]
  constructor
  · intro h
    linarith
  · intro h
    linarith

theorem solvedReducedBy_eliminateAfter_iff {before : BendRow ℚ} (rows : List (BendRow ℚ)) {x : ℚ}
    (bs : List ℚ) (hpivot : before.diag ≠ 0)
    (hpivots : ∀ row ∈ eliminateAfter before rows, row.diag ≠ 0)
    (hbefore : before.HoldsReduced x (bs.headD 0)) :
    SolvedReducedBy (eliminateAfter before rows) bs ↔ SolvedBy rows x bs := by
  induction rows generalizing before x bs with
  | nil => cases bs <;> simp [eliminateAfter, SolvedReducedBy, SolvedBy]
  | cons row rows ih =>
    cases bs with
    | nil => simp [eliminateAfter, SolvedReducedBy, SolvedBy]
    | cons b bs =>
      simp only [eliminateAfter, List.forall_mem_cons] at hpivots
      rw [eliminateAfter, SolvedReducedBy, SolvedBy,
        holdsReduced_reduce_iff row hpivot (by simpa using hbefore)]
      -- the reduced row holds, and takes the place of the row before for those behind it
      refine and_congr_right fun hrow => ?_
      exact ih bs hpivots.1 hpivots.2 ((holdsReduced_reduce_iff row hpivot hbefore).2 hrow)

theorem solvedReducedBy_eliminate_iff (rows : List (BendRow ℚ)) (bs : List ℚ)
    (hpivots : ∀ row ∈ eliminate rows, row.diag ≠ 0) :
    SolvedReducedBy (eliminate rows) bs ↔ SolvedBy rows 0 bs := by
  cases rows with
  | nil => cases bs <;> simp [eliminate, SolvedReducedBy, SolvedBy]
  | cons row rows =>
    cases bs with
    | nil => simp [eliminate, SolvedReducedBy, SolvedBy]
    | cons b bs =>
      simp only [eliminate, List.forall_mem_cons] at hpivots
      have hfirst : row.Holds 0 b (bs.headD 0) ↔ row.HoldsReduced b (bs.headD 0) := by
        rw [Holds, HoldsReduced, mul_zero, zero_add]
      rw [eliminate, SolvedReducedBy, SolvedBy, hfirst]
      refine and_congr_right fun hrow => ?_
      exact solvedReducedBy_eliminateAfter_iff rows bs hpivots.1 hpivots.2 hrow

theorem substitute_cons (row : BendRow ℚ) (rows : List (BendRow ℚ)) :
    substitute (row :: rows) =
      (row.rhs - row.upper * (substitute rows).headD 0) / row.diag :: substitute rows := rfl

/-- Reduced rows have one solution, which substitution finds. -/
theorem solvedReducedBy_iff (rows : List (BendRow ℚ)) (bs : List ℚ)
    (hpivots : ∀ row ∈ rows, row.diag ≠ 0) :
    SolvedReducedBy rows bs ↔ bs = substitute rows := by
  induction rows generalizing bs with
  | nil => cases bs <;> simp [SolvedReducedBy, substitute]
  | cons row rows ih =>
    cases bs with
    | nil => simp [SolvedReducedBy, substitute_cons]
    | cons b bs =>
      rw [List.forall_mem_cons] at hpivots
      rw [SolvedReducedBy, ih bs hpivots.2, substitute_cons, List.cons.injEq]
      refine and_congr_left fun hbs => ?_
      rw [hbs, HoldsReduced, eq_div_iff hpivots.1, eq_sub_iff_add_eq, mul_comm b]

/-- The diagonal entry of the row is greater than the entry next to it, which is positive. -/
structure Dominant (row : BendRow ℚ) : Prop where
  upper_pos : 0 < row.upper
  upper_lt : row.upper < row.diag

theorem Dominant.diag_pos {row : BendRow ℚ} (h : row.Dominant) : 0 < row.diag :=
  h.upper_pos.trans h.upper_lt

theorem ofPoints_eq (p q r : ℚ × ℚ) :
    ofPoints p q r = ⟨q.1 - p.1, 2 * ((q.1 - p.1) + (r.1 - q.1)), r.1 - q.1,
      6 * ((r.2 - q.2) / (r.1 - q.1) - (q.2 - p.2) / (q.1 - p.1))⟩ := rfl

theorem dominant_ofPoints {p q r : ℚ × ℚ} (hpq : p.1 < q.1) (hqr : q.1 < r.1) :
    (ofPoints p q r).Dominant := by
  rw [ofPoints_eq]
  constructor
  · simpa using hqr
  · simp only
    linarith

/-- A row whose points follow those of a dominant row is still dominant when it is reduced: less
than the distance that both rows share is taken from its diagonal entry. -/
theorem dominant_reduce {before : BendRow ℚ} {p q r : ℚ × ℚ} (hbefore : before.Dominant)
    (hshared : before.upper = q.1 - p.1) (hqr : q.1 < r.1) :
    (reduce before (ofPoints p q r)).Dominant := by
  have hpq : 0 < q.1 - p.1 := hshared ▸ hbefore.upper_pos
  have hfactor : (q.1 - p.1) / before.diag < 1 := by
    rw [div_lt_one hbefore.diag_pos, ← hshared]
    exact hbefore.upper_lt
  have htaken : (q.1 - p.1) / before.diag * (q.1 - p.1) < q.1 - p.1 :=
    mul_lt_of_lt_one_left hpq hfactor
  rw [reduce_eq, ofPoints_eq, hshared]
  constructor
  · simpa using hqr
  · simp only
    linarith

/-- Each point lies to the right of the one before it. -/
abbrev Ascending (points : List (ℚ × ℚ)) : Prop :=
  points.IsChain fun p q => p.1 < q.1

theorem all_cons (p q r : ℚ × ℚ) (points : List (ℚ × ℚ)) :
    all (p :: q :: r :: points) = ofPoints p q r :: all (q :: r :: points) := rfl

theorem dominant_eliminateAfter {before : BendRow ℚ} {p q : ℚ × ℚ} {points : List (ℚ × ℚ)}
    (hbefore : before.Dominant) (hshared : before.upper = q.1 - p.1)
    (hpoints : Ascending (q :: points)) :
    ∀ row ∈ eliminateAfter before (all (p :: q :: points)), row.Dominant := by
  induction points generalizing before p q with
  | nil => simp [all, eliminateAfter]
  | cons r points ih =>
    rw [Ascending, List.isChain_cons_cons] at hpoints
    have hrow := dominant_reduce hbefore hshared hpoints.1
    rw [all_cons, eliminateAfter, List.forall_mem_cons]
    exact ⟨hrow, ih hrow rfl hpoints.2⟩

/-- Elimination leaves no row that could not be divided by its diagonal entry. -/
theorem dominant_eliminate {points : List (ℚ × ℚ)} (hpoints : Ascending points) :
    ∀ row ∈ eliminate (all points), row.Dominant := by
  match points with
  | [] => simp [all, eliminate]
  | [_] => simp [all, eliminate]
  | [_, _] => simp [all, eliminate]
  | p :: q :: r :: points =>
    rw [Ascending, List.isChain_cons_cons, List.isChain_cons_cons] at hpoints
    have hrow := dominant_ofPoints hpoints.1 hpoints.2.1
    rw [all_cons, eliminate, List.forall_mem_cons]
    exact ⟨hrow, dominant_eliminateAfter hrow rfl hpoints.2.2⟩

/-- Among points that ascend, the equations have one solution. -/
theorem solvedBy_iff {points : List (ℚ × ℚ)} (hpoints : Ascending points) (bs : List ℚ) :
    SolvedBy (all points) 0 bs ↔ bs = substitute (eliminate (all points)) := by
  have hpivots : ∀ row ∈ eliminate (all points), row.diag ≠ 0 := fun row hrow =>
    (dominant_eliminate hpoints row hrow).diag_pos.ne'
  rw [← solvedReducedBy_eliminate_iff _ _ hpivots, solvedReducedBy_iff _ _ hpivots]

theorem SolvedBy.length_eq {rows : List (BendRow ℚ)} {before : ℚ} {bs : List ℚ}
    (h : SolvedBy rows before bs) : bs.length = rows.length := by
  induction rows generalizing before bs with
  | nil =>
    cases bs with
    | nil => rfl
    | cons b bs => cases h
  | cons row rows ih =>
    cases bs with
    | nil => cases h
    | cons b bs => rw [List.length_cons, List.length_cons, ih h.2]

theorem SolvedBy.holds {rows : List (BendRow ℚ)} {before : ℚ} {bs : List ℚ}
    (h : SolvedBy rows before bs) {i : Nat} {row : BendRow ℚ} (hrow : rows[i]? = some row) :
    row.Holds ((before :: bs).getD i 0) (bs.getD i 0) (bs.getD (i + 1) 0) := by
  induction rows generalizing before bs i with
  | nil => simp at hrow
  | cons first rows ih =>
    cases bs with
    | nil => cases h
    | cons b bs =>
      cases i with
      | zero =>
        obtain rfl : first = row := by simpa using hrow
        have hnext : bs.headD 0 = bs.getD 0 0 := by cases bs <;> rfl
        exact hnext ▸ h.1
      | succ i => exact ih h.2 (by simpa using hrow)

theorem solvedBy_of_holds {rows : List (BendRow ℚ)} {before : ℚ} {bs : List ℚ}
    (hlength : bs.length = rows.length)
    (h : ∀ (i : Nat) (row : BendRow ℚ), rows[i]? = some row →
      row.Holds ((before :: bs).getD i 0) (bs.getD i 0) (bs.getD (i + 1) 0)) :
    SolvedBy rows before bs := by
  induction rows generalizing before bs with
  | nil =>
    obtain rfl : bs = [] := List.length_eq_zero_iff.1 hlength
    trivial
  | cons row rows ih =>
    cases bs with
    | nil => simp at hlength
    | cons b bs =>
      have hnext : bs.headD 0 = bs.getD 0 0 := by cases bs <;> rfl
      constructor
      · rw [hnext]
        exact h 0 row rfl
      · refine ih (by simpa using hlength) fun i r hr => ?_
        exact h (i + 1) r (by simpa using hr)

theorem length_all (points : List (ℚ × ℚ)) : (all points).length = points.length - 2 := by
  simp [all]
  omega

theorem all_getElem? {points : List (ℚ × ℚ)} {i : Nat} {p q r : ℚ × ℚ} (hp : points[i]? = some p)
    (hq : points[i + 1]? = some q) (hr : points[i + 2]? = some r) :
    (all points)[i]? = some (ofPoints p q r) := by
  simp [all, List.zip, List.getElem?_zipWith, hp, hq, hr]

end BendRow

theorem getD_append_zero (l : List ℚ) (i : Nat) : (l ++ [0]).getD i 0 = l.getD i 0 := by
  by_cases hi : i < l.length
  · exact List.getD_append _ _ _ _ hi
  · rw [List.getD_append_right _ _ _ _ (by omega), List.getD_eq_default l _ (by omega)]
    cases i - l.length <;> rfl

theorem bends_eq (points : List (ℚ × ℚ)) :
    bends points =
      0 :: BendRow.substitute (BendRow.eliminate (BendRow.all points)) ++ [0] := rfl

theorem length_bends {points : List (ℚ × ℚ)} (hpoints : BendRow.Ascending points)
    (hlength : 2 ≤ points.length) : (bends points).length = points.length := by
  have hsolved := (BendRow.solvedBy_iff hpoints _).2 rfl
  rw [bends_eq, List.length_append, List.length_cons, hsolved.length_eq, BendRow.length_all]
  simp only [List.length_cons, List.length_nil]
  omega

theorem bends_getD_last {points : List (ℚ × ℚ)} (hpoints : BendRow.Ascending points)
    (hlength : 2 ≤ points.length) : (bends points).getD (points.length - 1) 0 = 0 := by
  have hsolved := (BendRow.solvedBy_iff hpoints _).2 rfl
  rw [bends_eq, getD_append_zero, List.getD_eq_default]
  rw [List.length_cons, hsolved.length_eq, BendRow.length_all]
  omega

theorem bends_hold {points : List (ℚ × ℚ)} (hpoints : BendRow.Ascending points) {i : Nat}
    {row : BendRow ℚ} (hrow : (BendRow.all points)[i]? = some row) :
    row.Holds ((bends points).getD i 0) ((bends points).getD (i + 1) 0)
      ((bends points).getD (i + 2) 0) := by
  have hsolved := (BendRow.solvedBy_iff hpoints _).2 rfl
  rw [bends_eq, getD_append_zero, getD_append_zero, getD_append_zero]
  exact hsolved.holds hrow

end Swell

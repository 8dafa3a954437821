import Swell.Proofs.Signal.Fitting

/-!
# Elimination solves the system for the bends

Main statement, over rational numbers: for points that ascend, elimination divides by positive
numbers only, and the bends that it comes to are the only values with zeros at both ends that
satisfy the equations at all inner points.
-/
namespace Swell

namespace BendRow

def sides (row : BendRow ℚ) : ℚ × ℚ :=
  (row.lower, row.upper)

theorem sides_reduce (before row : BendRow ℚ) :
    (reduce before row).sides = row.sides := rfl

theorem map_sides_eliminateAfter (before : BendRow ℚ) (rows : List (BendRow ℚ)) :
    (eliminateAfter before rows).map sides = rows.map sides := by
  induction rows generalizing before with
  | nil => rfl
  | cons row rows ih => rw [eliminateAfter, List.map_cons, List.map_cons, sides_reduce, ih]

/-- Elimination changes the diagonal and the right-hand sides only. -/
theorem map_sides_eliminate (rows : List (BendRow ℚ)) :
    (eliminate rows).map sides = rows.map sides := by
  cases rows with
  | nil => rfl
  | cons row rows => rw [eliminate, List.map_cons, List.map_cons, map_sides_eliminateAfter]

theorem length_eliminate (rows : List (BendRow ℚ)) : (eliminate rows).length = rows.length := by
  have hlength := congrArg List.length (map_sides_eliminate rows)
  rwa [List.length_map, List.length_map] at hlength

end BendRow

def gap (values : List ℚ) (i : Nat) : ℚ :=
  values.getD (i + 1) 0 - values.getD i 0

theorem gap_pos {xs : List ℚ} (hxs : xs.Pairwise (· < ·)) {i : Nat} (hi : i + 1 < xs.length) :
    0 < gap xs i := by
  rw [gap, List.getD_eq_getElem _ _ hi, List.getD_eq_getElem _ _ (by omega), sub_pos]
  exact List.pairwise_iff_getElem.1 hxs i (i + 1) (by omega) hi (Nat.lt_succ_self i)

namespace Series

/-- One value for each point: zero at both ends, and at each inner point the equation for its bend
and those of its neighbours holds. -/
structure HasBends (s : Series ℚ) (m : List ℚ) : Prop where
  length : m.length = s.x.length
  first : m.head? = some 0
  last : m.getLast? = some 0
  inner : ∀ i, i + 2 < s.x.length →
    gap s.x i * m.getD i 0 + 2 * (gap s.x i + gap s.x (i + 1)) * m.getD (i + 1) 0 +
        gap s.x (i + 1) * m.getD (i + 2) 0 =
      6 * (gap s.y (i + 1) / gap s.x (i + 1) - gap s.y i / gap s.x i)

/-- The equation at the point behind the one at an index. -/
def rowAt (s : Series ℚ) (i : Nat) : BendRow ℚ :=
  ⟨gap s.x i, 2 * (gap s.x i + gap s.x (i + 1)), gap s.x (i + 1),
    6 * (gap s.y (i + 1) / gap s.x (i + 1) - gap s.y i / gap s.x i)⟩

variable {s : Series ℚ}

theorem zip_getElem? (hlengths : s.x.length = s.y.length) {i : Nat} (hi : i < s.x.length) :
    (s.x.zip s.y)[i]? = some (s.x.getD i 0, s.y.getD i 0) := by
  rw [List.getElem?_zip_eq_some, List.getD_eq_getElem _ _ hi,
    List.getD_eq_getElem _ _ (hlengths ▸ hi)]
  exact ⟨List.getElem?_eq_getElem hi, List.getElem?_eq_getElem _⟩

theorem length_all_zip (hlengths : s.x.length = s.y.length) :
    (BendRow.all (s.x.zip s.y)).length = s.x.length - 2 := by
  rw [BendRow.length_all, List.length_zip, ← hlengths, Nat.min_self]

/-- There is an equation for each inner point. -/
theorem all_zip_getElem?_eq_some_iff (hlengths : s.x.length = s.y.length) {i : Nat}
    {row : BendRow ℚ} :
    (BendRow.all (s.x.zip s.y))[i]? = some row ↔ i + 2 < s.x.length ∧ s.rowAt i = row := by
  have hget (hi : i + 2 < s.x.length) : (BendRow.all (s.x.zip s.y))[i]? = some (s.rowAt i) :=
    BendRow.all_getElem? (zip_getElem? hlengths (by omega)) (zip_getElem? hlengths (by omega))
      (zip_getElem? hlengths hi)
  constructor
  · intro hrow
    have hbound := (List.getElem?_eq_some_iff.1 hrow).1
    rw [length_all_zip hlengths] at hbound
    have hi : i + 2 < s.x.length := by omega
    exact ⟨hi, Option.some.inj ((hget hi).symm.trans hrow)⟩
  · rintro ⟨hi, rfl⟩
    exact hget hi

theorem HasBends.exists_inner {m : List ℚ} (h : s.HasBends m) (htwo : 2 ≤ s.x.length) :
    ∃ bs, m = 0 :: bs ++ [0] ∧ bs.length = s.x.length - 2 := by
  obtain ⟨ms, rfl⟩ := List.head?_eq_some_iff.1 h.first
  have hlength := h.length
  rw [List.length_cons] at hlength
  have hms : ms ≠ [] := by
    rintro rfl
    rw [List.length_nil] at hlength
    omega
  have hlast : ms.getLast? = some 0 := by
    rw [← List.getLast?_cons_of_ne_nil hms]
    exact h.last
  obtain ⟨bs, rfl⟩ := List.getLast?_eq_some_iff.1 hlast
  refine ⟨bs, rfl, ?_⟩
  rw [List.length_append, List.length_singleton] at hlength
  omega

end Series

namespace Spline.Fits

variable {s : Series ℚ} (h : Fits s)
include h

/-- The bends of the points are the only values that the system allows. -/
theorem hasBends_iff (m : List ℚ) : s.HasBends m ↔ m = bends (s.x.zip s.y) := by
  obtain ⟨hpoints, htwo⟩ := h.points
  constructor
  · intro hm
    obtain ⟨bs, rfl, hlength⟩ := hm.exists_inner h.two_le
    have hsolved : BendRow.SolvedBy (BendRow.all (s.x.zip s.y)) 0 bs := by
      rw [← s.length_all_zip h.lengths] at hlength
      refine BendRow.solvedBy_of_holds hlength fun i row hrow => ?_
      obtain ⟨hi, rfl⟩ := (s.all_zip_getElem?_eq_some_iff h.lengths).1 hrow
      have hinner := hm.inner i hi
      rw [getD_append_zero, getD_append_zero, getD_append_zero] at hinner
      exact hinner
    rw [bends_eq, (BendRow.solvedBy_iff hpoints bs).1 hsolved]
  · rintro rfl
    constructor
    · rw [length_bends hpoints htwo, List.length_zip, ← h.lengths, Nat.min_self]
    · rfl
    · rw [bends_eq, List.getLast?_concat]
    · intro i hi
      exact bends_hold hpoints ((s.all_zip_getElem?_eq_some_iff h.lengths).2 ⟨hi, rfl⟩)

/-- A row after elimination has the distances to both neighbours of its point beside the diagonal,
and the diagonal entry exceeds the one behind it. -/
theorem eliminated {i : Nat} {row : BendRow ℚ}
    (hrow : (BendRow.eliminate (BendRow.all (s.x.zip s.y)))[i]? = some row) :
    row.lower = gap s.x i ∧ row.upper = gap s.x (i + 1) ∧ 0 < row.lower ∧ row.Dominant := by
  have hsides := congrArg (·[i]?) (BendRow.map_sides_eliminate (BendRow.all (s.x.zip s.y)))
  simp only [List.getElem?_map, hrow, Option.map_some] at hsides
  obtain ⟨first, hfirst, hsame⟩ := Option.map_eq_some_iff.1 hsides.symm
  obtain ⟨hi, rfl⟩ := (s.all_zip_getElem?_eq_some_iff h.lengths).1 hfirst
  obtain ⟨hlower, hupper⟩ := Prod.mk.inj hsame.symm
  refine ⟨hlower, hupper, ?_, ?_⟩
  · rw [hlower]
    exact gap_pos h.ascending (by omega)
  · exact BendRow.dominant_eliminate h.points.1 row (List.mem_of_getElem? hrow)

end Spline.Fits

/-- After elimination each row has the distances to both neighbours of its point beside the
diagonal, which are positive, and the diagonal entry exceeds the one behind it: these are the
numbers that are divided by. The bends are the only values that are zero at both ends and satisfy
all equations. -/
theorem elimination_solves_for_bends (s : Series ℚ) (h : Spline.Fits s) :
    (BendRow.eliminate (BendRow.all (s.x.zip s.y))).length = s.x.length - 2 ∧
    (∀ (i : Nat) (row : BendRow ℚ),
      (BendRow.eliminate (BendRow.all (s.x.zip s.y)))[i]? = some row →
        row.lower = gap s.x i ∧ row.upper = gap s.x (i + 1) ∧
        0 < row.lower ∧ 0 < row.upper ∧ row.upper < row.diag) ∧
    ∀ m, s.HasBends m ↔ m = bends (s.x.zip s.y) := by
  refine ⟨?_, fun i row hrow => ?_, h.hasBends_iff⟩
  · rw [BendRow.length_eliminate, s.length_all_zip h.lengths]
  · obtain ⟨hlower, hupper, hpos, hdominant⟩ := h.eliminated hrow
    exact ⟨hlower, hupper, hpos, hdominant.upper_pos, hdominant.upper_lt⟩

/-- Four points, with a wider distance between the inner ones. -/
theorem elimination_through_four_points :
    Spline.Fits ⟨[0, 1, 3, 4], [0, 2, 1, 3]⟩ ∧
      BendRow.eliminate (BendRow.all [((0 : ℚ), (0 : ℚ)), (1, 2), (3, 1), (4, 3)]) =
        [⟨1, 6, 2, -15⟩, ⟨2, 16 / 3, 1, 20⟩] ∧
      (2 : ℚ) < 6 ∧ (1 : ℚ) < 16 / 3 ∧
      ∀ m, Series.HasBends ⟨[0, 1, 3, 4], [0, 2, 1, 3]⟩ m ↔ m = [0, -15 / 4, 15 / 4, 0] := by
  have hfits : Spline.Fits ⟨[0, 1, 3, 4], [0, 2, 1, 3]⟩ := ⟨rfl, by decide, by decide +kernel⟩
  obtain ⟨-, hrows, hbends⟩ := elimination_solves_for_bends _ hfits
  have heliminated :
      BendRow.eliminate (BendRow.all [((0 : ℚ), (0 : ℚ)), (1, 2), (3, 1), (4, 3)]) =
        [⟨1, 6, 2, -15⟩, ⟨2, 16 / 3, 1, 20⟩] := by
    with_unfolding_all rfl
  have hsolved : bends [((0 : ℚ), (0 : ℚ)), (1, 2), (3, 1), (4, 3)] = [0, -15 / 4, 15 / 4, 0] := by
    with_unfolding_all rfl
  refine ⟨hfits, heliminated, ?_, ?_, fun m => ?_⟩
  · exact (hrows 0 ⟨1, 6, 2, -15⟩ (congrArg (·[0]?) heliminated)).2.2.2.2
  · exact (hrows 1 ⟨2, 16 / 3, 1, 20⟩ (congrArg (·[1]?) heliminated)).2.2.2.2
  · rw [hbends m]
    change m = bends [((0 : ℚ), (0 : ℚ)), (1, 2), (3, 1), (4, 3)] ↔ _
    rw [hsolved]

end Swell

import Swell.Proofs.Signal.Ascending
import Swell.Proofs.Signal.Bends

/-!
# The points that a spline is fitted through

Main statements, over rational numbers: a spline is fitted exactly through the series that have a
value for each place, two points at least, and places that ascend; and its knots are the points of
the series, with their bends.
-/
namespace Swell

/-- No value stands behind one that it does not exceed. -/
theorem firstDescent?_eq_none_iff (xs : List ℚ) :
    firstDescent? xs = none ↔ xs.Pairwise (· < ·) := by
  rw [← List.isChain_iff_pairwise, ← forall_mem_zip_tail_iff, firstDescent?, Option.map_eq_none_iff,
    List.find?_eq_none]
  constructor
  · intro h p hp
    obtain ⟨i, hi⟩ := List.mem_iff_getElem?.1 hp
    have hle := h (p, i) (List.mem_zipIdx_iff_getElem?.2 hi)
    simpa [Scalar.le] using hle
  · intro h p hp
    have hlt := h p.1 (List.fst_mem_of_mem_zipIdx hp)
    simpa [Scalar.le] using hlt

theorem ascending_zip {xs ys : List ℚ} (hxs : xs.Pairwise (· < ·))
    (hlength : xs.length = ys.length) :
    BendRow.Ascending (xs.zip ys) := by
  rw [BendRow.Ascending, ← List.isChain_map (R := (· < ·)) Prod.fst, List.map_fst_zip hlength.le]
  exact hxs.isChain

namespace Spline

def knotsThrough (points : List (ℚ × ℚ)) : List (Knot ℚ) :=
  points.zipWith (fun p m => ⟨p.1, p.2, m⟩) (bends points)

theorem length_knotsThrough {points : List (ℚ × ℚ)} (hpoints : BendRow.Ascending points)
    (hlength : 2 ≤ points.length) : (knotsThrough points).length = points.length := by
  rw [knotsThrough, List.length_zipWith, length_bends hpoints hlength, Nat.min_self]

theorem knotsThrough_getElem? {points : List (ℚ × ℚ)} {i : Nat} {k : Knot ℚ}
    (hk : (knotsThrough points)[i]? = some k) :
    points[i]? = some (k.x, k.y) ∧ (bends points).getD i 0 = k.bend := by
  obtain ⟨p, m, hp, hm, rfl⟩ := List.getElem?_zipWith_eq_some.1 hk
  rw [List.getD_eq_getElem?_getD, hm]
  exact ⟨hp, rfl⟩

theorem map_knotsThrough {points : List (ℚ × ℚ)} (hpoints : BendRow.Ascending points)
    (hlength : 2 ≤ points.length) :
    (knotsThrough points).map (fun k => (k.x, k.y)) = points := by
  apply List.ext_getElem?
  intro i
  rw [List.getElem?_map]
  cases hk : (knotsThrough points)[i]? with
  | none =>
    rw [List.getElem?_eq_none_iff, length_knotsThrough hpoints hlength] at hk
    rw [Option.map_none, List.getElem?_eq_none hk]
  | some k => rw [Option.map_some, (knotsThrough_getElem? hk).1]

/-- What is asked of a series: a value for each place, two points at least, and ascending places. -/
structure Fits (s : Series ℚ) : Prop where
  lengths : s.x.length = s.y.length
  two_le : 2 ≤ s.x.length
  ascending : s.x.Pairwise (· < ·)

variable {s : Series ℚ}

theorem Fits.points (h : Fits s) :
    BendRow.Ascending (s.x.zip s.y) ∧ 2 ≤ (s.x.zip s.y).length := by
  refine ⟨ascending_zip h.ascending h.lengths, ?_⟩
  rw [List.length_zip, ← h.lengths, Nat.min_self]
  exact h.two_le

theorem Fits.of_fit {f : Spline ℚ} (e : fit s = .ok f) : Fits s := by
  rw [fit] at e
  split at e
  · cases e
  · next hlengths =>
    split at e
    · cases e
    · next htwo =>
      split at e
      · cases e
      · split at e
        · cases e
        · next hdescent =>
          exact ⟨not_not.1 hlengths, not_lt.1 htwo, (firstDescent?_eq_none_iff _).1 hdescent⟩

/-- The knots of a fitted spline are the points of the series, with their bends. -/
theorem Fits.exists_fit (h : Fits s) :
    ∃ f, fit s = .ok f ∧ f.knots = knotsThrough (s.x.zip s.y) := by
  have hfinite : ((s.x ++ s.y).any fun v => !Scalar.isFinite v) = false := by
    simp [Scalar.isFinite]
  obtain ⟨first, second, rest, hknots⟩ : ∃ first second rest,
      knotsThrough (s.x.zip s.y) = first :: second :: rest := by
    have htwo := h.points.2
    rw [← length_knotsThrough h.points.1 h.points.2] at htwo
    match knotsThrough (s.x.zip s.y), htwo with
    | first :: second :: rest, _ => exact ⟨first, second, rest, rfl⟩
  refine ⟨⟨first, second, rest⟩, ?_, hknots.symm⟩
  rw [knotsThrough] at hknots
  rw [fit, if_neg (not_not.2 h.lengths), if_neg (not_lt.2 h.two_le), hfinite,
    (firstDescent?_eq_none_iff _).2 h.ascending]
  simp [hknots]

/-- The spline has its knots at the points of the series, with the bends of these points. -/
structure FittedTo (f : Spline ℚ) (s : Series ℚ) : Prop where
  fits : Fits s
  knots_eq : f.knots = knotsThrough (s.x.zip s.y)

theorem eq_of_knots_eq {f g : Spline ℚ} (h : f.knots = g.knots) : f = g := by
  cases f
  cases g
  simpa [knots] using h

theorem fit_eq_ok_iff {f : Spline ℚ} : fit s = .ok f ↔ f.FittedTo s := by
  constructor
  · intro e
    obtain ⟨g, hg, hknots⟩ := (Fits.of_fit e).exists_fit
    obtain rfl : f = g := Except.ok.inj (e.symm.trans hg)
    exact ⟨Fits.of_fit e, hknots⟩
  · intro h
    obtain ⟨g, hg, hknots⟩ := h.fits.exists_fit
    rw [hg, eq_of_knots_eq (h.knots_eq.trans hknots.symm)]

/-- A spline is fitted through the series that meet what is asked of them, and no others. -/
theorem exists_fit_iff : (∃ f, fit s = .ok f) ↔ Fits s := by
  constructor
  · rintro ⟨f, hf⟩
    exact Fits.of_fit hf
  · intro h
    obtain ⟨f, hf, -⟩ := h.exists_fit
    exact ⟨f, hf⟩

def Ascending (f : Spline ℚ) : Prop :=
  f.knots.Pairwise fun j k => j.x < k.x

namespace FittedTo

variable {f : Spline ℚ} (h : f.FittedTo s)
include h

theorem map_knots : f.knots.map (fun k => (k.x, k.y)) = s.x.zip s.y := by
  rw [h.knots_eq, map_knotsThrough h.fits.points.1 h.fits.points.2]

theorem map_x : f.knots.map Knot.x = s.x := by
  rw [← List.map_fst_zip h.fits.lengths.le, ← h.map_knots, List.map_map]
  rfl

theorem map_y : f.knots.map Knot.y = s.y := by
  rw [← List.map_snd_zip h.fits.lengths.ge, ← h.map_knots, List.map_map]
  rfl

theorem knots_ascending : f.Ascending := by
  rw [Ascending, ← List.pairwise_map (f := Knot.x) (R := (· < ·)), h.map_x]
  exact h.fits.ascending

theorem point_eq {i : Nat} {k : Knot ℚ} (hk : f.knots[i]? = some k) :
    (s.x.zip s.y)[i]? = some (k.x, k.y) :=
  (knotsThrough_getElem? (h.knots_eq ▸ hk)).1

theorem bend_eq {i : Nat} {k : Knot ℚ} (hk : f.knots[i]? = some k) :
    (bends (s.x.zip s.y)).getD i 0 = k.bend :=
  (knotsThrough_getElem? (h.knots_eq ▸ hk)).2

end FittedTo

end Spline
end Swell

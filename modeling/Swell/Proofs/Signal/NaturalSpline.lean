import Swell.Proofs.Signal.Fitting
import Swell.Proofs.Signal.Segments

/-!
# Fitted splines are natural cubic splines

Main statements, over rational numbers: which segment is used for each place; and that a fitted
spline is the natural cubic spline through its points, with one polynomial for each two neighbours
among them.
-/
namespace Swell

theorem lt_iff_lt_countP {xs : List ℚ} (hxs : xs.Pairwise (· < ·)) {i : Nat} {x t : ℚ}
    (hx : xs[i]? = some x) : x < t ↔ i < xs.countP (· < t) := by
  have hfirst : HoldFirst (fun y => decide (y < t)) xs :=
    hxs.imp fun hab hb => decide_eq_true (hab.trans (of_decide_eq_true hb))
  rw [hfirst.lt_countP_iff hx, decide_eq_true_iff]

namespace Spline

theorem segments_getElem?_iff (f : Spline ℚ) (i : Nat) (g : Segment ℚ) :
    f.segments[i]? = some g ↔ f.knots[i]? = some g.left ∧ f.knots[i + 1]? = some g.right := by
  rw [segments, List.getElem?_zipWith_eq_some]
  constructor
  · rintro ⟨j, k, hj, hk, rfl⟩
    exact ⟨hj, by simpa using hk⟩
  · rintro ⟨hj, hk⟩
    exact ⟨g.left, g.right, hj, by simpa using hk, rfl⟩

theorem length_segments (f : Spline ℚ) : f.segments.length + 1 = f.knots.length := by
  simp [segments, knots]

theorem segmentFrom_eq {t : ℚ} {s : Segment ℚ} {ks : List (Knot ℚ)}
    (hks : (s.right :: ks).Pairwise fun j k => j.x < k.x) {i : Nat} {g : Segment ℚ}
    (hg : (s :: (s.right :: ks).zipWith (⟨·, ·⟩) ks)[i]? = some g)
    (hleft : 0 < i → g.left.x < t) (hright : i < ks.length → t ≤ g.right.x) :
    segmentFrom t s ks = g := by
  induction ks generalizing s i with
  | nil =>
    cases i with
    | zero => simpa [segmentFrom] using hg
    | succ i => simp at hg
  | cons k ks ih =>
    cases i with
    | zero =>
      obtain rfl : s = g := by simpa using hg
      have hstop : ¬s.right.x < t := not_lt.2 (hright (by simp))
      simp [segmentFrom, Scalar.precedes, hstop]
    | succ i =>
      rw [List.getElem?_cons_succ, List.zipWith_cons_cons] at hg
      rw [List.pairwise_cons] at hks
      -- the segment that is used begins at the right knot of this one or behind it
      have hpass : s.right.x < t := by
        refine lt_of_le_of_lt ?_ (hleft (Nat.succ_pos i))
        cases i with
        | zero =>
          obtain rfl : (⟨s.right, k⟩ : Segment ℚ) = g := by simpa using hg
          exact le_rfl
        | succ i =>
          rw [List.getElem?_cons_succ, List.getElem?_zipWith_eq_some] at hg
          obtain ⟨j, _, hj, -, rfl⟩ := hg
          exact (hks.1 j (List.mem_of_getElem? hj)).le
      rw [segmentFrom, if_pos (by simpa [Scalar.precedes] using hpass)]
      exact ih hks.2 hg (fun _ => hleft (Nat.succ_pos i)) fun hi => hright (by simpa using hi)

variable {f : Spline ℚ} {i : Nat} {g : Segment ℚ} {t : ℚ}

/-- The first segment is used for all places before its right knot, the last one for all places
behind its left knot, and any other one for the places between its knots. -/
theorem segmentAt_eq (hf : f.Ascending) (hg : f.segments[i]? = some g)
    (hleft : 0 < i → g.left.x < t) (hright : i + 1 < f.segments.length → t ≤ g.right.x) :
    f.segmentAt t = g := by
  have hrest : f.segments.length = f.rest.length + 1 := by
    have hlength := f.length_segments
    simp only [knots, List.length_cons] at hlength
    omega
  refine segmentFrom_eq (List.pairwise_cons.1 hf).2 hg hleft fun hi => hright ?_
  omega

theorem valueAt_of_not_knot (h : ∀ k ∈ f.knots, k.x ≠ t) :
    f.valueAt t = (f.segmentAt t).valueAt t := by
  have hnone : (f.knots.find? fun k => Scalar.same k.x t) = none := by
    rw [List.find?_eq_none]
    intro k hk
    simpa [Scalar.same] using h k hk
  rw [valueAt, hnone]

section
variable (hf : f.Ascending)
include hf

theorem knot_lt {m : Nat} {j k : Knot ℚ} (hj : f.knots[i]? = some j) (hk : f.knots[m]? = some k)
    (him : i < m) : j.x < k.x := by
  obtain ⟨hi, rfl⟩ := List.getElem?_eq_some_iff.1 hj
  obtain ⟨hm, rfl⟩ := List.getElem?_eq_some_iff.1 hk
  exact List.pairwise_iff_getElem.1 hf i m hi hm him

theorem knot_le {m : Nat} {j k : Knot ℚ} (hj : f.knots[i]? = some j) (hk : f.knots[m]? = some k)
    (him : i ≤ m) : j.x ≤ k.x := by
  rcases Nat.lt_or_eq_of_le him with hlt | rfl
  · exact (knot_lt hf hj hk hlt).le
  · rw [Option.some.inj (hj.symm.trans hk)]

theorem left_lt_right (hg : f.segments[i]? = some g) : g.left.x < g.right.x := by
  obtain ⟨hleft, hright⟩ := (f.segments_getElem?_iff i g).1 hg
  exact knot_lt hf hleft hright (Nat.lt_succ_self i)

theorem valueAt_knot {k : Knot ℚ} (hk : k ∈ f.knots) : f.valueAt k.x = k.y := by
  cases hfound : f.knots.find? fun j => Scalar.same j.x k.x with
  | none => simpa [Scalar.same] using List.find?_eq_none.1 hfound k hk
  | some j =>
    have hx : j.x = k.x := by simpa [Scalar.same] using List.find?_some hfound
    obtain ⟨i, hi⟩ := List.mem_iff_getElem?.1 (List.mem_of_find?_eq_some hfound)
    obtain ⟨m, hm⟩ := List.mem_iff_getElem?.1 hk
    have him : i = m := by
      rcases Nat.lt_trichotomy i m with hlt | rfl | hlt
      · exact absurd hx (knot_lt hf hi hm hlt).ne
      · rfl
      · exact absurd hx.symm (knot_lt hf hm hi hlt).ne
    subst him
    rw [valueAt, hfound, Option.some.inj (hi.symm.trans hm)]

/-- Between its knots, before the first knot and behind the last one, the polynomial of a segment
is evaluated: the places that the segment is used for, its knots apart. -/
theorem valueAt_eq_of_used (hg : f.segments[i]? = some g)
    (hleft : g.left.x < t ∨ i = 0 ∧ t < g.left.x)
    (hright : t < g.right.x ∨ i + 1 = f.segments.length ∧ g.right.x < t) :
    f.segmentAt t = g ∧ f.valueAt t = g.polynomial.eval t := by
  obtain ⟨hgleft, hgright⟩ := (f.segments_getElem?_iff i g).1 hg
  have hused : f.segmentAt t = g := by
    apply segmentAt_eq hf hg
    · intro hi
      exact hleft.resolve_right fun h => hi.ne' h.1
    · intro hi
      exact (hright.resolve_right fun h => hi.ne h.1).le
  refine ⟨hused, ?_⟩
  rw [valueAt_of_not_knot, hused, g.eval_polynomial]
  intro k hk
  obtain ⟨m, hm⟩ := List.mem_iff_getElem?.1 hk
  -- a knot is at the left end of the segment or before it, or at the right end or behind it
  rcases Nat.lt_or_ge i m with him | hmi
  · have hle := knot_le hf hgright hm him
    rcases hright with h | ⟨hi, h⟩
    · exact (h.trans_le hle).ne'
    · have hlast : m = i + 1 := by
        have hlength := f.length_segments
        have hbound := (List.getElem?_eq_some_iff.1 hm).1
        omega
      subst hlast
      rw [Option.some.inj (hm.symm.trans hgright)]
      exact h.ne
  · have hle := knot_le hf hm hgleft hmi
    rcases hleft with h | ⟨hi, h⟩
    · exact (hle.trans_lt h).ne
    · obtain rfl : m = i := by omega
      rw [Option.some.inj (hm.symm.trans hgleft)]
      exact h.ne'

/-- The segment that is used begins at the last knot before the place, or is the first or the last
one where there is no such knot or no knot behind it. -/
theorem segments_getElem?_segmentAt (t : ℚ) :
    f.segments[min ((f.knots.map Knot.x).countP (· < t) - 1) (f.knots.length - 2)]? =
      some (f.segmentAt t) := by
  have hlength := f.length_segments
  have htwo : 2 ≤ f.knots.length := by simp [knots]
  set before := (f.knots.map Knot.x).countP (· < t) with hbefore
  have hlt_iff {m : Nat} {k : Knot ℚ} (hk : f.knots[m]? = some k) : k.x < t ↔ m < before :=
    lt_iff_lt_countP (List.pairwise_map.2 hf) (by rw [List.getElem?_map, hk, Option.map_some])
  obtain ⟨g, hg⟩ : ∃ g, f.segments[min (before - 1) (f.knots.length - 2)]? = some g :=
    ⟨_, List.getElem?_eq_getElem (by omega)⟩
  obtain ⟨hleft, hright⟩ := (f.segments_getElem?_iff _ g).1 hg
  rw [hg, segmentAt_eq hf hg]
  · intro h
    rw [hlt_iff hleft]
    omega
  · intro h
    rw [← not_lt, hlt_iff hright]
    omega
end

/-- The spline is the natural cubic spline through the points of the series. Between each two
neighbouring points it has one polynomial, which is at most cubic. -/
structure NaturalThrough (f : Spline ℚ) (s : Series ℚ) : Prop where
  /-- The spline goes through the points. -/
  values : ∀ (i : Nat) (x y : ℚ), s.x[i]? = some x → s.y[i]? = some y → f.valueAt x = y
  /-- There is one segment for each two neighbouring points. -/
  segment_count : f.segments.length + 1 = s.x.length
  places : ∀ i g, f.segments[i]? = some g →
    s.x[i]? = some g.left.x ∧ s.x[i + 1]? = some g.right.x
  /-- Each segment has a polynomial that is at most cubic. -/
  cubic : ∀ g ∈ f.segments, g.polynomial.natDegree ≤ 3 ∧ ∀ t, g.valueAt t = g.polynomial.eval t
  /-- The polynomials go through both of their points. -/
  ends : ∀ i g, f.segments[i]? = some g →
    s.y[i]? = some (g.polynomial.eval g.left.x) ∧
      s.y[i + 1]? = some (g.polynomial.eval g.right.x)
  /-- Where two segments meet, their polynomials have equal derivatives. -/
  smooth : ∀ i g h, f.segments[i]? = some g → f.segments[i + 1]? = some h →
    g.right.x = h.left.x ∧
      g.polynomial.derivative.eval g.right.x = h.polynomial.derivative.eval h.left.x ∧
      g.polynomial.derivative.derivative.eval g.right.x =
        h.polynomial.derivative.derivative.eval h.left.x
  /-- The second derivative is zero at both ends. -/
  natural : (∀ g ∈ f.segments.head?, g.polynomial.derivative.derivative.eval g.left.x = 0) ∧
    ∀ g ∈ f.segments.getLast?, g.polynomial.derivative.derivative.eval g.right.x = 0
  /-- Between two neighbouring points their own segment is used. -/
  between : ∀ g ∈ f.segments, ∀ t, g.left.x < t → t < g.right.x →
    f.segmentAt t = g ∧ f.valueAt t = g.polynomial.eval t
  /-- Before the first point the first segment is used. -/
  before : ∀ g ∈ f.segments.head?, ∀ t, t < g.left.x →
    f.segmentAt t = g ∧ f.valueAt t = g.polynomial.eval t
  /-- Behind the last point the last segment is used. -/
  behind : ∀ g ∈ f.segments.getLast?, ∀ t, g.right.x < t →
    f.segmentAt t = g ∧ f.valueAt t = g.polynomial.eval t
  /-- The index that is computed from the points before a place is the index of a segment. -/
  index : ∀ t, f.segments[min (s.x.countP (· < t) - 1) (s.x.length - 2)]? = some (f.segmentAt t)

namespace FittedTo

variable {f : Spline ℚ} {s : Series ℚ} (h : f.FittedTo s) {i : Nat} {g : Segment ℚ}
include h

theorem places (hg : f.segments[i]? = some g) :
    s.x[i]? = some g.left.x ∧ s.x[i + 1]? = some g.right.x := by
  obtain ⟨hleft, hright⟩ := (f.segments_getElem?_iff i g).1 hg
  simp [← h.map_x, hleft, hright]

theorem ends (hg : f.segments[i]? = some g) :
    s.y[i]? = some (g.polynomial.eval g.left.x) ∧
      s.y[i + 1]? = some (g.polynomial.eval g.right.x) := by
  obtain ⟨hleft, hright⟩ := (f.segments_getElem?_iff i g).1 hg
  have hg' := left_lt_right h.knots_ascending hg
  simp [← h.map_y, hleft, hright, Segment.valueAt_left hg', Segment.valueAt_right hg']

/-- The slopes agree where two segments meet, as the equation for the bend at the common knot
holds. -/
theorem smooth {g' : Segment ℚ} (hg : f.segments[i]? = some g)
    (hg' : f.segments[i + 1]? = some g') :
    g.right.x = g'.left.x ∧
      g.polynomial.derivative.eval g.right.x = g'.polynomial.derivative.eval g'.left.x ∧
      g.polynomial.derivative.derivative.eval g.right.x =
        g'.polynomial.derivative.derivative.eval g'.left.x := by
  obtain ⟨hleft, hmiddle⟩ := (f.segments_getElem?_iff i g).1 hg
  obtain ⟨hmiddle', hright⟩ := (f.segments_getElem?_iff (i + 1) g').1 hg'
  have hmeet : g.right = g'.left := Option.some.inj (hmiddle.symm.trans hmiddle')
  have hlt := left_lt_right h.knots_ascending hg
  have hlt' := left_lt_right h.knots_ascending hg'
  refine ⟨congrArg Knot.x hmeet, ?_, ?_⟩
  · have hrow := BendRow.all_getElem? (h.point_eq hleft) (h.point_eq hmiddle) (h.point_eq hright)
    have hholds := bends_hold h.fits.points.1 hrow
    rw [h.bend_eq hleft, h.bend_eq hmiddle, h.bend_eq hright] at hholds
    exact (Segment.slopes_eq_iff hlt hlt' hmeet).2 hholds
  · rw [Segment.eval_derivative_derivative_right hlt, Segment.eval_derivative_derivative_left hlt',
      hmeet]

theorem natural :
    (∀ g ∈ f.segments.head?, g.polynomial.derivative.derivative.eval g.left.x = 0) ∧
      ∀ g ∈ f.segments.getLast?, g.polynomial.derivative.derivative.eval g.right.x = 0 := by
  constructor
  · intro g hg
    rw [Option.mem_def, List.head?_eq_getElem?] at hg
    have hleft := ((f.segments_getElem?_iff 0 g).1 hg).1
    rw [Segment.eval_derivative_derivative_left (left_lt_right h.knots_ascending hg),
      ← h.bend_eq hleft]
    rfl
  · intro g hg
    rw [Option.mem_def, List.getLast?_eq_getElem?] at hg
    have hright := ((f.segments_getElem?_iff _ g).1 hg).2
    have hbound := (List.getElem?_eq_some_iff.1 hg).1
    have hlast : f.segments.length - 1 + 1 = (s.x.zip s.y).length - 1 := by
      rw [← h.map_knots, List.length_map, ← f.length_segments]
      omega
    rw [Segment.eval_derivative_derivative_right (left_lt_right h.knots_ascending hg),
      ← h.bend_eq hright, hlast]
    exact bends_getD_last h.fits.points.1 h.fits.points.2

theorem naturalThrough : f.NaturalThrough s where
  values i x y hx hy := by
    have hpoint : (x, y) ∈ f.knots.map fun k => (k.x, k.y) := by
      rw [h.map_knots]
      exact List.mem_of_getElem? (by rw [List.getElem?_zip_eq_some]; exact ⟨hx, hy⟩)
    obtain ⟨k, hk, hxy⟩ := List.mem_map.1 hpoint
    obtain ⟨rfl, rfl⟩ := Prod.mk.inj hxy
    exact valueAt_knot h.knots_ascending hk
  segment_count := by rw [f.length_segments, ← h.map_x, List.length_map]
  places _ _ hg := h.places hg
  cubic g _ := ⟨g.natDegree_polynomial_le, fun t => (g.eval_polynomial t).symm⟩
  ends _ _ hg := h.ends hg
  smooth _ _ _ hg hg' := h.smooth hg hg'
  natural := h.natural
  between g hg t hleft hright := by
    obtain ⟨i, hi⟩ := List.mem_iff_getElem?.1 hg
    exact valueAt_eq_of_used h.knots_ascending hi (.inl hleft) (.inl hright)
  before g hg t ht := by
    rw [Option.mem_def, List.head?_eq_getElem?] at hg
    have hlt := left_lt_right h.knots_ascending hg
    exact valueAt_eq_of_used h.knots_ascending hg (.inr ⟨rfl, ht⟩) (.inl (ht.trans hlt))
  behind g hg t ht := by
    rw [Option.mem_def, List.getLast?_eq_getElem?] at hg
    have hlt := left_lt_right h.knots_ascending hg
    have hlast : f.segments.length - 1 + 1 = f.segments.length := by
      have hbound := (List.getElem?_eq_some_iff.1 hg).1
      omega
    exact valueAt_eq_of_used h.knots_ascending hg (.inl (hlt.trans ht)) (.inr ⟨hlast, ht⟩)
  index t := by
    rw [← h.map_x, List.length_map]
    exact segments_getElem?_segmentAt h.knots_ascending t

end FittedTo

/-- A spline is fitted exactly through the series that meet what is asked of them, and then it is
the natural cubic spline through their points. -/
theorem fitted_spline_is_natural (s : Series ℚ) :
    ((∃ f, fit s = .ok f) ↔ Fits s) ∧ ∀ f, fit s = .ok f → f.NaturalThrough s := by
  refine ⟨exists_fit_iff, fun f hf => ?_⟩
  exact (fit_eq_ok_iff.1 hf).naturalThrough

/-- Through three points with unequal distances, with a value between two of them. -/
theorem fitted_through_three_points :
    fit (⟨[0, 1, 3], [0, 2, 1]⟩ : Series ℚ) =
        .ok ⟨⟨0, 0, 0⟩, ⟨1, 2, -5 / 2⟩, [⟨3, 1, 0⟩]⟩ ∧
      (⟨⟨0, 0, 0⟩, ⟨1, 2, -5 / 2⟩, [⟨3, 1, 0⟩]⟩ : Spline ℚ).NaturalThrough
        ⟨[0, 1, 3], [0, 2, 1]⟩ ∧
      (⟨⟨0, 0, 0⟩, ⟨1, 2, -5 / 2⟩, [⟨3, 1, 0⟩]⟩ : Spline ℚ).valueAt 2 = 17 / 8 := by
  have hfit : fit (⟨[0, 1, 3], [0, 2, 1]⟩ : Series ℚ) =
      .ok ⟨⟨0, 0, 0⟩, ⟨1, 2, -5 / 2⟩, [⟨3, 1, 0⟩]⟩ := by
    with_unfolding_all rfl
  exact ⟨hfit, (fitted_spline_is_natural _).2 _ hfit, by decide +kernel⟩

end Spline
end Swell

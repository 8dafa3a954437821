import Swell.Proofs.Signal.Resampling

/-!
# Affine changes of a series

Places are stretched and shifted, values are scaled and a straight line is added to them. Main
statements, over rational numbers: the spline through the changed points is the spline through the
points, changed alike, as the equations for the bends hold for the changed bends; so a series in
other units is resampled to the same points in these units; and a spline through points of a
straight line is that line.
-/
namespace Swell

/-- A change of the plane that takes vertical lines to vertical lines, in their order. -/
structure AffineChange where
  stretch : ℚ
  shift : ℚ
  scale : ℚ
  slope : ℚ
  offset : ℚ
  stretch_pos : 0 < stretch

namespace AffineChange

variable (c : AffineChange)

def place (x : ℚ) : ℚ :=
  c.stretch * x + c.shift

def value (x y : ℚ) : ℚ :=
  c.scale * y + (c.slope * x + c.offset)

def point (p : ℚ × ℚ) : ℚ × ℚ :=
  (c.place p.1, c.value p.1 p.2)

/-- The added line has no bend, and a stretched curve bends less. -/
def bend (m : ℚ) : ℚ :=
  c.scale / c.stretch ^ 2 * m

def knot (k : Knot ℚ) : Knot ℚ :=
  ⟨c.place k.x, c.value k.x k.y, c.bend k.bend⟩

def segment (s : Segment ℚ) : Segment ℚ :=
  ⟨c.knot s.left, c.knot s.right⟩

def spline (f : Spline ℚ) : Spline ℚ :=
  ⟨c.knot f.first, c.knot f.second, f.rest.map c.knot⟩

def series (s : Series ℚ) : Series ℚ :=
  ⟨s.x.map c.place, s.x.zipWith c.value s.y⟩

@[simp] theorem place_lt_iff {x t : ℚ} : c.place x < c.place t ↔ x < t := by
  rw [place, place, add_lt_add_iff_right, mul_lt_mul_iff_right₀ c.stretch_pos]

@[simp] theorem place_inj {x t : ℚ} : c.place x = c.place t ↔ x = t := by
  rw [place, place, add_left_inj, mul_right_inj' c.stretch_pos.ne']

theorem place_sub (x t : ℚ) : c.place t - c.place x = c.stretch * (t - x) := by
  rw [place, place]
  ring

@[simp] theorem bend_zero : c.bend 0 = 0 :=
  mul_zero _

theorem bend_eq_scaled (m : ℚ) : c.stretch * c.bend m = c.scale / c.stretch * m := by
  have hstretch := c.stretch_pos.ne'
  rw [bend]
  field_simp

theorem slope_point {p q : ℚ × ℚ} (hpq : p.1 < q.1) :
    ((c.point q).2 - (c.point p).2) / ((c.point q).1 - (c.point p).1) =
      c.scale / c.stretch * ((q.2 - p.2) / (q.1 - p.1)) + c.slope / c.stretch := by
  have hstretch := c.stretch_pos.ne'
  have hdistance := (sub_pos.2 hpq).ne'
  simp only [point, place_sub, value]
  field_simp
  ring

/-- Both slopes at a point grow by that of the added line, so that their difference is scaled only,
and so are the bends. -/
theorem holds_bend {p q r : ℚ × ℚ} (hpq : p.1 < q.1) (hqr : q.1 < r.1) {l m n : ℚ}
    (h : (BendRow.ofPoints p q r).Holds l m n) :
    (BendRow.ofPoints (c.point p) (c.point q) (c.point r)).Holds (c.bend l) (c.bend m)
      (c.bend n) := by
  rw [BendRow.ofPoints_eq, BendRow.Holds] at h ⊢
  dsimp only at h ⊢
  rw [c.slope_point hpq, c.slope_point hqr]
  simp only [point, place_sub]
  calc c.stretch * (q.1 - p.1) * c.bend l +
        2 * (c.stretch * (q.1 - p.1) + c.stretch * (r.1 - q.1)) * c.bend m +
        c.stretch * (r.1 - q.1) * c.bend n
      = (q.1 - p.1) * (c.stretch * c.bend l) +
          2 * ((q.1 - p.1) + (r.1 - q.1)) * (c.stretch * c.bend m) +
          (r.1 - q.1) * (c.stretch * c.bend n) := by ring
    _ = c.scale / c.stretch * ((q.1 - p.1) * l + 2 * ((q.1 - p.1) + (r.1 - q.1)) * m +
          (r.1 - q.1) * n) := by
      simp only [bend_eq_scaled]
      ring
    _ = _ := by
      rw [h]
      ring

/-- Whatever solves the equations at the points solves those at the changed points when it is
changed as bends are. -/
theorem solvedBy_map_bend {p q : ℚ × ℚ} {points : List (ℚ × ℚ)}
    (hpoints : BendRow.Ascending (p :: q :: points)) {before : ℚ} {bs : List ℚ}
    (h : BendRow.SolvedBy (BendRow.all (p :: q :: points)) before bs) :
    BendRow.SolvedBy (BendRow.all ((p :: q :: points).map c.point)) (c.bend before)
      (bs.map c.bend) := by
  induction points generalizing p q before bs with
  | nil =>
    cases bs with
    | nil => trivial
    | cons b bs => cases h
  | cons r points ih =>
    cases bs with
    | nil => cases h
    | cons b bs =>
      rw [BendRow.all_cons] at h
      obtain ⟨hpq, hrest⟩ := List.isChain_cons_cons.1 hpoints
      have hqr := (List.isChain_cons_cons.1 hrest).1
      have hnext : (bs.map c.bend).headD 0 = c.bend (bs.headD 0) := by
        cases bs <;> simp
      -- the first equation is that at `q`, the others have `b` before their first value
      refine ⟨?_, ih hrest h.2⟩
      rw [hnext]
      exact c.holds_bend hpq hqr h.1

theorem ascending_map_point {points : List (ℚ × ℚ)} (hpoints : BendRow.Ascending points) :
    BendRow.Ascending (points.map c.point) := by
  rw [BendRow.Ascending, List.isChain_map]
  exact hpoints.imp fun p q hpq => c.place_lt_iff.2 hpq

/-- As the equations have one solution, the changed bends are the bends of the changed points. -/
theorem bends_map_point {points : List (ℚ × ℚ)} (hpoints : BendRow.Ascending points) :
    bends (points.map c.point) = (bends points).map c.bend := by
  have hsolved : BendRow.SolvedBy (BendRow.all (points.map c.point)) 0
      ((BendRow.substitute (BendRow.eliminate (BendRow.all points))).map c.bend) := by
    match points with
    | [] => trivial
    | [_] => trivial
    | p :: q :: points =>
      have h := c.solvedBy_map_bend hpoints ((BendRow.solvedBy_iff hpoints _).2 rfl)
      rwa [bend_zero] at h
  rw [bends_eq, ← (BendRow.solvedBy_iff (c.ascending_map_point hpoints) _).1 hsolved, bends_eq]
  simp

theorem knots_spline (f : Spline ℚ) : (c.spline f).knots = f.knots.map c.knot := rfl

theorem knotsThrough_map_point {points : List (ℚ × ℚ)} (hpoints : BendRow.Ascending points) :
    Spline.knotsThrough (points.map c.point) = (Spline.knotsThrough points).map c.knot := by
  rw [Spline.knotsThrough, c.bends_map_point hpoints, List.zipWith_map, Spline.knotsThrough,
    List.map_zipWith]
  rfl

theorem zip_series (s : Series ℚ) :
    (c.series s).x.zip (c.series s).y = (s.x.zip s.y).map c.point := by
  obtain ⟨xs, ys⟩ := s
  simp only [series]
  induction xs generalizing ys with
  | nil => rfl
  | cons x xs ih =>
    cases ys with
    | nil => rfl
    | cons y ys => simp [ih, point]

theorem fits_series {s : Series ℚ} (h : Spline.Fits s) : Spline.Fits (c.series s) where
  lengths := by simp [series, h.lengths]
  two_le := by simpa [series] using h.two_le
  ascending := by
    refine List.pairwise_map.2 (h.ascending.imp ?_)
    intro x t hxt
    exact c.place_lt_iff.2 hxt

/-- The spline through the changed points is the changed spline. -/
theorem fittedTo_series {f : Spline ℚ} {s : Series ℚ} (h : f.FittedTo s) :
    (c.spline f).FittedTo (c.series s) where
  fits := c.fits_series h.fits
  knots_eq := by
    rw [knots_spline, h.knots_eq, zip_series, c.knotsThrough_map_point h.fits.points.1]

/-- A line is its own interpolation between two places. -/
theorem line_eq {x₀ x₁ : ℚ} (h : x₀ < x₁) (t : ℚ) :
    c.slope * t + c.offset =
      (c.slope * x₀ + c.offset) / (x₁ - x₀) * (x₁ - t) +
        (c.slope * x₁ + c.offset) / (x₁ - x₀) * (t - x₀) := by
  have hdistance := (sub_pos.2 h).ne'
  field_simp
  ring

theorem valueAt_segment {s : Segment ℚ} (hs : s.left.x < s.right.x) (t : ℚ) :
    (c.segment s).valueAt (c.place t) = c.value t (s.valueAt t) := by
  have hstretch := c.stretch_pos.ne'
  have hwidth := Segment.width_ne_zero hs
  have hchanged : (c.segment s).width = c.stretch * s.width := c.place_sub _ _
  have hright : (c.segment s).right.x - c.place t = c.stretch * (s.right.x - t) := c.place_sub _ _
  have hleft : c.place t - (c.segment s).left.x = c.stretch * (t - s.left.x) := c.place_sub _ _
  rw [value, c.line_eq hs t, Segment.valueAt_eq, Segment.valueAt_eq, hchanged, hright, hleft,
    ← Segment.width]
  simp only [segment, knot, bend, value]
  field_simp
  ring

theorem segmentFrom_segment (t : ℚ) (s : Segment ℚ) (ks : List (Knot ℚ)) :
    Spline.segmentFrom (c.place t) (c.segment s) (ks.map c.knot) =
      c.segment (Spline.segmentFrom t s ks) := by
  induction ks generalizing s with
  | nil => rfl
  | cons k ks ih =>
    rw [List.map_cons, Spline.segmentFrom, Spline.segmentFrom]
    have hpasses : Scalar.precedes (c.segment s).right.x (c.place t) =
        Scalar.precedes s.right.x t := decide_eq_decide.2 c.place_lt_iff
    rw [hpasses]
    by_cases h : Scalar.precedes s.right.x t = true
    · rw [if_pos h, if_pos h]
      exact ih ⟨s.right, k⟩
    · rw [if_neg h, if_neg h]

theorem segmentAt_spline (f : Spline ℚ) (t : ℚ) :
    (c.spline f).segmentAt (c.place t) = c.segment (f.segmentAt t) :=
  c.segmentFrom_segment t ⟨f.first, f.second⟩ f.rest

theorem valueAt_spline {f : Spline ℚ} (hf : f.Ascending) (t : ℚ) :
    (c.spline f).valueAt (c.place t) = c.value t (f.valueAt t) := by
  have hsame : (fun k => Scalar.same k.x (c.place t)) ∘ c.knot = fun k => Scalar.same k.x t := by
    funext k
    exact decide_eq_decide.2 c.place_inj
  have hfind : (c.spline f).knots.find? (fun k => Scalar.same k.x (c.place t)) =
      (f.knots.find? fun k => Scalar.same k.x t).map c.knot := by
    rw [knots_spline, List.find?_map, hsame]
  rw [Spline.valueAt, hfind, Spline.valueAt]
  cases h : f.knots.find? fun k => Scalar.same k.x t with
  | none =>
    obtain ⟨i, hi⟩ := List.mem_iff_getElem?.1 (f.segmentAt_mem t)
    simp only [Option.map_none]
    rw [segmentAt_spline, c.valueAt_segment (Spline.left_lt_right hf hi)]
  | some k =>
    have hx : k.x = t := by simpa [Scalar.same] using List.find?_some h
    simp [knot, hx]

theorem last_spline (f : Spline ℚ) : (c.spline f).last = c.knot f.last :=
  List.getLastD_map

theorem stepCount_spline (f : Spline ℚ) (step : ℚ) :
    (c.spline f).stepCount (c.stretch * step) = f.stepCount step := by
  have hspan : (c.spline f).last.x - (c.spline f).first.x =
      c.stretch * (f.last.x - f.first.x) := by
    rw [last_spline]
    exact c.place_sub _ _
  rw [Spline.stepCount_eq, hspan, mul_div_mul_left _ _ c.stretch_pos.ne', Spline.stepCount_eq]

theorem gridPlace_spline (f : Spline ℚ) (step : ℚ) (i : Nat) :
    (c.spline f).gridPlace (c.stretch * step) i = c.place (f.gridPlace step i) := by
  simp only [Spline.gridPlace, spline, knot, place]
  ring

section Resampled

variable {f : Spline ℚ} (hf : f.Ascending)
include hf

theorem sampledAt_spline (xs : List ℚ) :
    (c.spline f).sampledAt (xs.map c.place) = c.series (f.sampledAt xs) := by
  have hvalues : (c.spline f).valueAt ∘ c.place = fun x => c.value x (f.valueAt x) := by
    funext x
    exact c.valueAt_spline hf x
  simp only [Spline.sampledAt, series, List.map_map, hvalues, List.zipWith_map_right,
    List.zipWith_self]

theorem onGrid_spline (step : ℚ) (n : Nat) :
    (c.spline f).onGrid (c.stretch * step) n = c.series (f.onGrid step n) := by
  have hplaces : (List.range n).map ((c.spline f).gridPlace (c.stretch * step)) =
      ((List.range n).map (f.gridPlace step)).map c.place := by
    rw [List.map_map]
    exact List.map_congr_left fun i _ => c.gridPlace_spline f step i
  rw [Spline.onGrid, hplaces, c.sampledAt_spline hf, Spline.onGrid]

theorem resample_spline_eq_ok_iff (step : ℚ) (t' : Series ℚ) :
    (c.spline f).resample (c.stretch * step) = .ok t' ↔
      ∃ t, f.resample step = .ok t ∧ c.series t = t' := by
  rw [Spline.resample_eq, stepCount_spline, Spline.resample_eq, c.onGrid_spline hf]
  by_cases h : f.stepCount step + 1 ≤ gridLimit
  · simp [h]
  · simp [h]

end Resampled

end AffineChange

/-- The series with other units and origins for its places and its values. -/
def Series.rescaled (a b c d : ℚ) (s : Series ℚ) : Series ℚ :=
  ⟨s.x.map fun x => a * x + b, s.y.map fun y => c * y + d⟩

/-- The same treatment of a series with another unit for its places. -/
def Sampling.stretched (a : ℚ) (s : Sampling ℚ) : Sampling ℚ :=
  ⟨a * s.step, s.classifier⟩

theorem Spline.Fits.of_resampled {s : Sampling ℚ} {wave t : Series ℚ}
    (h : s.resampled wave = .ok t) : Spline.Fits wave := by
  obtain ⟨f, hf, -⟩ := bind_eq_ok_iff.1 h
  exact .of_fit hf

section Units

variable {a : ℚ} (ha : 0 < a) (b c d : ℚ)

/-- A change of units adds no line. -/
def AffineChange.ofUnits : AffineChange :=
  ⟨a, b, c, 0, d, ha⟩

theorem AffineChange.series_ofUnits {s : Series ℚ} (h : s.x.length = s.y.length) :
    (ofUnits ha b c d).series s = s.rescaled a b c d := by
  have hvalues : s.x.zipWith (ofUnits ha b c d).value s.y = s.y.map fun y => c * y + d := by
    apply List.ext_getElem
    · simp [h]
    · intro i hi hi'
      simp [value, ofUnits]
  rw [series, hvalues]
  rfl

include ha

theorem Series.fits_rescaled_iff {s : Series ℚ} :
    Spline.Fits (s.rescaled a b c d) ↔ Spline.Fits s := by
  constructor
  · intro h
    refine ⟨by simpa [rescaled] using h.lengths, by simpa [rescaled] using h.two_le,
      (List.pairwise_map.1 h.ascending).imp ?_⟩
    intro x t hxt
    exact (AffineChange.ofUnits ha b c d).place_lt_iff.1 hxt
  · intro h
    rw [← AffineChange.series_ofUnits ha b c d h.lengths]
    exact (AffineChange.ofUnits ha b c d).fits_series h

theorem Spline.fit_rescaled {f : Spline ℚ} {s : Series ℚ} (hf : fit s = .ok f) :
    fit (s.rescaled a b c d) = .ok ((AffineChange.ofUnits ha b c d).spline f) := by
  have hfitted := fit_eq_ok_iff.1 hf
  rw [← AffineChange.series_ofUnits ha b c d hfitted.fits.lengths]
  exact fit_eq_ok_iff.2 ((AffineChange.ofUnits ha b c d).fittedTo_series hfitted)

/-- In other units a series is resampled to the same points in these units. -/
theorem Sampling.resampled_stretched_eq_ok_iff (s : Sampling ℚ) (wave t' : Series ℚ) :
    (s.stretched a).resampled (wave.rescaled a b c d) = .ok t' ↔
      ∃ t, s.resampled wave = .ok t ∧ t.rescaled a b c d = t' := by
  by_cases hfits : Spline.Fits wave
  · obtain ⟨f, hf⟩ := Spline.exists_fit_iff.2 hfits
    have hunits {t : Series ℚ} (ht : f.resample s.step = .ok t) :
        (AffineChange.ofUnits ha b c d).series t = t.rescaled a b c d := by
      apply AffineChange.series_ofUnits
      rw [Spline.values_of_resample ht, List.length_map]
    have hchanged := (AffineChange.ofUnits ha b c d).resample_spline_eq_ok_iff
      (Spline.fit_eq_ok_iff.1 hf).knots_ascending s.step t'
    rw [resampled_of_fit _ (Spline.fit_rescaled ha b c d hf), resampled_of_fit _ hf]
    constructor
    · intro h
      obtain ⟨t, ht, hseries⟩ := hchanged.1 h
      exact ⟨t, ht, (hunits ht).symm.trans hseries⟩
    · rintro ⟨t, ht, hrescaled⟩
      exact hchanged.2 ⟨t, ht, (hunits ht).trans hrescaled⟩
  · constructor
    · intro h
      exact absurd ((Series.fits_rescaled_iff ha b c d).1 (.of_resampled h)) hfits
    · rintro ⟨t, ht, -⟩
      exact absurd (.of_resampled ht) hfits

end Units

/-- In other units a series is fitted and resampled alike: to as many points, with the same places
and values in these units, or not at all. If only the unit and the origin of the places are others,
the signal is the same. -/
theorem resampling_follows_units {a : ℚ} (ha : 0 < a) (b c d : ℚ) (s : Sampling ℚ)
    (wave : Series ℚ) :
    ((∃ f, Spline.fit (wave.rescaled a b c d) = .ok f) ↔ ∃ f, Spline.fit wave = .ok f) ∧
      ((∃ e, (s.stretched a).resampled (wave.rescaled a b c d) = .error e) ↔
        ∃ e, s.resampled wave = .error e) ∧
      (∀ t, s.resampled wave = .ok t →
        (s.stretched a).resampled (wave.rescaled a b c d) = .ok (t.rescaled a b c d)) ∧
      ∀ signal, (s.stretched a).signal (wave.rescaled a b 1 0) = .ok signal ↔
        s.signal wave = .ok signal := by
  have hresampled := Sampling.resampled_stretched_eq_ok_iff ha b c d s wave
  refine ⟨?_, ?_, ?_, ?_⟩
  · rw [Spline.exists_fit_iff, Spline.exists_fit_iff, Series.fits_rescaled_iff ha b c d]
  · rw [exists_error_iff, exists_error_iff, not_iff_not]
    constructor
    · rintro ⟨t', ht'⟩
      obtain ⟨t, ht, -⟩ := (hresampled t').1 ht'
      exact ⟨t, ht⟩
    · rintro ⟨t, ht⟩
      exact ⟨_, (hresampled _).2 ⟨t, ht, rfl⟩⟩
  · intro t ht
    exact (hresampled _).2 ⟨t, ht, rfl⟩
  · -- the levels are those of the values, which keep their unit
    intro signal
    have hplaces := Sampling.resampled_stretched_eq_ok_iff ha b 1 0 s wave
    have hsame (t : Series ℚ) : s.classifier.classify (t.rescaled a b 1 0) =
        s.classifier.classify t := by
      apply Classifier.classify_congr
      simp [Series.rescaled]
    rw [Sampling.signal_eq_bind, Sampling.signal_eq_bind, bind_eq_ok_iff, bind_eq_ok_iff]
    constructor
    · rintro ⟨t', ht', hsignal⟩
      obtain ⟨t, ht, rfl⟩ := (hplaces t').1 ht'
      exact ⟨t, ht, hsame t ▸ hsignal⟩
    · rintro ⟨t, ht, hsignal⟩
      refine ⟨t.rescaled a b 1 0, ?_, (hsame t).trans hsignal⟩
      exact (hplaces _).2 ⟨t, ht, rfl⟩

/-- A wave in half the unit for its places, which are counted from elsewhere, and with its values
upside down. -/
theorem wave_in_half_units_is_resampled_alike :
    (0 : ℚ) < 1 / 2 ∧
      (⟨1, .neighbour 1⟩ : Sampling ℚ).resampled ⟨[0, 1, 3], [0, 2, 1]⟩ =
        .ok ⟨[0, 1, 2, 3], [0, 2, 17 / 8, 1]⟩ ∧
      (⟨1 / 2, .neighbour 1⟩ : Sampling ℚ).resampled ⟨[4, 9 / 2, 11 / 2], [1, -5, -2]⟩ =
        .ok ⟨[4, 9 / 2, 5, 11 / 2], [1, -5, -43 / 8, -2]⟩ := by
  have hhalf : (0 : ℚ) < 1 / 2 := by norm_num
  have hwave : (⟨1, .neighbour 1⟩ : Sampling ℚ).resampled ⟨[0, 1, 3], [0, 2, 1]⟩ =
      .ok ⟨[0, 1, 2, 3], [0, 2, 17 / 8, 1]⟩ := by
    with_unfolding_all rfl
  have hrescaled := (resampling_follows_units hhalf 4 (-3) 1 _ _).2.2.1 _ hwave
  refine ⟨hhalf, hwave, ?_⟩
  norm_num [Series.rescaled, Sampling.stretched] at hrescaled ⊢
  exact hrescaled

namespace AffineChange

variable (p q : ℚ)

/-- All points are moved up or down to a line. -/
def ofLine : AffineChange :=
  ⟨1, 0, 0, p, q, one_pos⟩

@[simp] theorem place_ofLine (x : ℚ) : (ofLine p q).place x = x := by
  simp [place, ofLine]

@[simp] theorem value_ofLine (x y : ℚ) : (ofLine p q).value x y = p * x + q := by
  simp [value, ofLine]

@[simp] theorem bend_ofLine (m : ℚ) : (ofLine p q).bend m = 0 := by
  simp [bend, ofLine]

theorem series_ofLine (xs : List ℚ) :
    (ofLine p q).series ⟨xs, xs⟩ = ⟨xs, xs.map fun x => p * x + q⟩ := by
  simp [series, List.zipWith_self, List.map_id'' (place_ofLine p q)]

end AffineChange

/-- A spline through points of a straight line has no bends, and it is that line at every place. -/
theorem straight_lines_are_kept (p q : ℚ) {xs : List ℚ} (hxs : xs.Pairwise (· < ·))
    (htwo : 2 ≤ xs.length) :
    ∃ f, Spline.fit ⟨xs, xs.map fun x => p * x + q⟩ = .ok f ∧
      f.knots = xs.map (fun x => ⟨x, p * x + q, 0⟩) ∧
      (∀ t, f.valueAt t = p * t + q) ∧
      ∀ step t, f.resample step = .ok t → t.y = t.x.map fun x => p * x + q := by
  -- some spline through points at these places is moved to the line
  obtain ⟨g, hg⟩ := Spline.exists_fit_iff.2 (⟨rfl, htwo, hxs⟩ : Spline.Fits ⟨xs, xs⟩)
  have hfitted := Spline.fit_eq_ok_iff.1 hg
  have hline := (AffineChange.ofLine p q).fittedTo_series hfitted
  have hvalue (t : ℚ) : ((AffineChange.ofLine p q).spline g).valueAt t = p * t + q := by
    simpa using (AffineChange.ofLine p q).valueAt_spline hfitted.knots_ascending t
  rw [AffineChange.series_ofLine] at hline
  refine ⟨(AffineChange.ofLine p q).spline g, Spline.fit_eq_ok_iff.2 hline, ?_, hvalue, ?_⟩
  · have hplaces : g.knots.map Knot.x = xs := hfitted.map_x
    rw [AffineChange.knots_spline, ← hplaces, List.map_map]
    exact List.map_congr_left fun k _ => by simp [AffineChange.knot]
  · intro step t ht
    rw [Spline.values_of_resample ht]
    exact List.map_congr_left fun x _ => hvalue x

/-- A line through three places with unequal distances, before the first and behind the last. -/
theorem line_through_three_places :
    [(-1 : ℚ), 0, 5 / 2].Pairwise (· < ·) ∧ 2 ≤ [(-1 : ℚ), 0, 5 / 2].length ∧
      ∃ f, Spline.fit ⟨[-1, 0, 5 / 2], [5, 3, -2]⟩ = .ok f ∧
        f.valueAt (-4) = (11 : ℚ) ∧ f.valueAt 1 = 1 ∧ f.valueAt 4 = -5 := by
  have hxs : [(-1 : ℚ), 0, 5 / 2].Pairwise (· < ·) := by norm_num
  have htwo : 2 ≤ [(-1 : ℚ), 0, 5 / 2].length := by decide
  obtain ⟨f, hf, -, hvalue, -⟩ := straight_lines_are_kept (-2) 3 hxs htwo
  refine ⟨hxs, htwo, f, ?_, ?_, ?_, ?_⟩
  · rw [← hf]
    norm_num
  · rw [hvalue]
    norm_num
  · rw [hvalue]
    norm_num
  · rw [hvalue]
    norm_num

end Swell

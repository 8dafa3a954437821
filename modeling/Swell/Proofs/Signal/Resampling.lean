import Mathlib.Data.Rat.Floor
import Mathlib.Tactic.NormNum
import Swell.Proofs.Signal.Levels
import Swell.Proofs.Signal.NaturalSpline

/-!
# Resampling on a grid

A spline is resampled at the points of a grid that begins at its first knot. Main statements, over
rational numbers: the grid has every point up to the last knot and passes it by no more than a
billionth of a step, unless it has too many points; and a series whose places are such a grid
already is resampled to itself.
-/
namespace Swell
namespace Spline

def gridPlace (f : Spline ℚ) (step : ℚ) (i : Nat) : ℚ :=
  f.first.x + i * step

/-- How many steps lead from the first knot to the last one. A step that passes the last knot by no
more than its billionth part counts as well. -/
def stepCount (f : Spline ℚ) (step : ℚ) : Int :=
  ⌊f.span / step + 1 / 10 ^ 9⌋

def sampledAt (f : Spline ℚ) (places : List ℚ) : Series ℚ :=
  ⟨places, places.map f.valueAt⟩

/-- The values of a spline at the first points of the grid. -/
def onGrid (f : Spline ℚ) (step : ℚ) (n : Nat) : Series ℚ :=
  f.sampledAt ((List.range n).map (f.gridPlace step))

@[simp] theorem length_onGrid (f : Spline ℚ) (step : ℚ) (n : Nat) :
    (f.onGrid step n).x.length = n := by
  simp [onGrid, sampledAt]

theorem onGrid_getElem? (f : Spline ℚ) (step : ℚ) {n i : Nat} (hi : i < n) :
    (f.onGrid step n).x[i]? = some (f.gridPlace step i) ∧
      (f.onGrid step n).y[i]? = some (f.valueAt (f.gridPlace step i)) := by
  simp [onGrid, sampledAt, hi]

theorem mem_onGrid_iff {f : Spline ℚ} {step : ℚ} {n : Nat} {x : ℚ} :
    x ∈ (f.onGrid step n).x ↔ ∃ i < n, f.gridPlace step i = x := by
  simp [onGrid, sampledAt]

theorem span_eq (f : Spline ℚ) : f.span = f.last.x - f.first.x := rfl

theorem stepCount_eq (f : Spline ℚ) (step : ℚ) :
    f.stepCount step = ⌊(f.last.x - f.first.x) / step + 1 / 10 ^ 9⌋ := rfl

theorem gridCount_eq (f : Spline ℚ) (step : ℚ) :
    f.gridCount step = (f.stepCount step + 1 : Int) := by
  have hbillionth : (Scalar.billionth : ℚ) = 1 / 10 ^ 9 := by
    simp only [Scalar.billionth]
    norm_num
  rw [gridCount, hbillionth, Int.cast_add, Int.cast_one]
  rfl

/-- The number of points decides whether a spline is resampled. -/
theorem resample_eq (f : Spline ℚ) (step : ℚ) :
    f.resample step =
      if f.stepCount step + 1 ≤ gridLimit then
        .ok (f.onGrid step (f.stepCount step + 1).toNat)
      else .error (.gridTooLarge f.span step) := by
  have hle : Scalar.le (f.gridCount step) (Scalar.ofNat gridLimit) =
      decide (f.stepCount step + 1 ≤ gridLimit) := by
    rw [gridCount_eq]
    apply decide_eq_decide.2
    change ((f.stepCount step + 1 : Int) : ℚ) ≤ (gridLimit : ℚ) ↔ _
    exact_mod_cast Iff.rfl
  have htoNat : Scalar.toNat (f.gridCount step) = (f.stepCount step + 1).toNat := by
    rw [gridCount_eq]
    exact congrArg Int.toNat (Rat.floor_intCast _)
  rw [resample, hle, htoNat]
  by_cases h : f.stepCount step + 1 ≤ gridLimit
  · simp only [h, Scalar.isFinite]
    rfl
  · simp only [h, Scalar.isFinite]
    rfl

theorem values_of_resample {f : Spline ℚ} {step : ℚ} {t : Series ℚ} (h : f.resample step = .ok t) :
    t.y = t.x.map f.valueAt := by
  rw [resample_eq] at h
  split at h
  · obtain rfl := Except.ok.inj h
    rfl
  · cases h

section Grid

variable {f : Spline ℚ} {step : ℚ} (hstep : 0 < step)
include hstep

theorem le_stepCount_iff (i : Int) :
    i ≤ f.stepCount step ↔ f.first.x + i * step ≤ f.last.x + 1 / 10 ^ 9 * step := by
  rw [stepCount_eq, Int.le_floor, ← sub_le_iff_le_add, le_div_iff₀ hstep, sub_mul]
  constructor
  · intro h
    linarith
  · intro h
    linarith

theorem lt_toNat_stepCount_iff (i : Nat) :
    i < (f.stepCount step + 1).toNat ↔ f.gridPlace step i ≤ f.last.x + 1 / 10 ^ 9 * step := by
  have h := le_stepCount_iff (f := f) hstep i
  rw [Int.cast_natCast] at h
  rw [gridPlace, ← h]
  omega

end Grid

theorem getLast?_knots (f : Spline ℚ) : f.knots.getLast? = some f.last := by
  rw [knots, List.getLast?_cons_cons, List.getLast?_cons, last, List.getLastD_eq_getLast?]

theorem first_lt_last {f : Spline ℚ} (hf : f.Ascending) : f.first.x < f.last.x := by
  have hlast : f.last ∈ f.second :: f.rest := by
    apply List.mem_of_getLast?
    rw [← f.getLast?_knots, knots, List.getLast?_cons_cons]
  exact (List.pairwise_cons.1 hf).1 f.last hlast

/-- The values of a spline at the points of a grid: at all points from the first knot to the last,
and at one behind it only if it is hardly behind it. -/
structure SampledOnGrid (f : Spline ℚ) (step : ℚ) (s : Series ℚ) : Prop where
  length_eq : (s.x.length : Int) = ⌊(f.last.x - f.first.x) / step + 1 / 10 ^ 9⌋ + 1
  one_le_length : 1 ≤ s.x.length
  length_le : s.x.length ≤ 1000000
  same_length : s.y.length = s.x.length
  places : ∀ i < s.x.length, s.x[i]? = some (f.first.x + i * step)
  values : ∀ i < s.x.length, s.y[i]? = some (f.valueAt (f.first.x + i * step))
  /-- No point passes the last knot by more than a billionth of a step. -/
  le_last : ∀ x ∈ s.x, x ≤ f.last.x + 1 / 10 ^ 9 * step
  /-- The next point of the grid lies behind the last knot. -/
  lt_next : f.last.x < f.first.x + s.x.length * step
  /-- No point of the grid is left out up to the last knot. -/
  complete : ∀ i : Nat, f.first.x + i * step ≤ f.last.x → f.first.x + i * step ∈ s.x

theorem sampledOnGrid {f : Spline ℚ} (hf : f.Ascending) {step : ℚ} (hstep : 0 < step)
    (hcount : f.stepCount step + 1 ≤ gridLimit) :
    f.SampledOnGrid step (f.onGrid step (f.stepCount step + 1).toNat) := by
  have hend : f.last.x < f.last.x + 1 / 10 ^ 9 * step := by
    simpa using hstep
  have hcounted (i : Nat) (hi : f.gridPlace step i ≤ f.last.x) :
      i < (f.stepCount step + 1).toNat :=
    (lt_toNat_stepCount_iff hstep i).2 (hi.trans hend.le)
  have hfirst : 0 < (f.stepCount step + 1).toNat := by
    apply hcounted
    simpa [gridPlace] using (first_lt_last hf).le
  constructor
  case length_eq =>
    rw [length_onGrid, ← stepCount_eq]
    omega
  case one_le_length =>
    rw [length_onGrid]
    exact hfirst
  case length_le =>
    rw [length_onGrid]
    rw [gridLimit] at hcount
    omega
  case same_length => simp [onGrid, sampledAt]
  case places =>
    intro i hi
    rw [length_onGrid] at hi
    exact (f.onGrid_getElem? step hi).1
  case values =>
    intro i hi
    rw [length_onGrid] at hi
    exact (f.onGrid_getElem? step hi).2
  case le_last =>
    intro x hx
    obtain ⟨i, hi, rfl⟩ := mem_onGrid_iff.1 hx
    exact (lt_toNat_stepCount_iff hstep i).1 hi
  case lt_next =>
    -- the first point that is not counted lies behind the last knot
    rw [length_onGrid]
    by_contra hle
    exact lt_irrefl _ (hcounted _ (not_lt.1 hle))
  case complete =>
    intro i hi
    exact mem_onGrid_iff.2 ⟨i, hcounted i hi, rfl⟩

namespace FittedTo

variable {f : Spline ℚ} {s : Series ℚ} (h : f.FittedTo s)
include h

theorem head?_x : s.x.head? = some f.first.x := by
  rw [← h.map_x]
  rfl

theorem getLast?_x : s.x.getLast? = some f.last.x := by
  rw [← h.map_x, List.getLast?_map, f.getLast?_knots, Option.map_some]

theorem map_valueAt : s.x.map f.valueAt = s.y := by
  rw [← h.map_x, ← h.map_y, List.map_map]
  exact List.map_congr_left fun k hk => valueAt_knot h.knots_ascending hk

end FittedTo

/-- A fitted spline is resampled at the whole grid from its first knot to its last one, unless this
takes more than a million points. -/
theorem resampling_covers_the_knots {s : Series ℚ} {f : Spline ℚ} (hf : fit s = .ok f) {step : ℚ}
    (hstep : 0 < step) :
    s.x.head? = some f.first.x ∧ s.x.getLast? = some f.last.x ∧
      (1000000 < ⌊(f.last.x - f.first.x) / step + 1 / 10 ^ 9⌋ + 1 →
        f.resample step = .error (.gridTooLarge (f.last.x - f.first.x) step)) ∧
      (⌊(f.last.x - f.first.x) / step + 1 / 10 ^ 9⌋ + 1 ≤ 1000000 →
        ∃ t, f.resample step = .ok t ∧ f.SampledOnGrid step t) := by
  have hfitted := fit_eq_ok_iff.1 hf
  have hlimit : (1000000 : Int) = gridLimit := rfl
  rw [← stepCount_eq, hlimit]
  refine ⟨hfitted.head?_x, hfitted.getLast?_x, ?_, ?_⟩
  · intro hmany
    rw [resample_eq, if_neg (not_le.2 hmany), span_eq]
  · intro hfew
    have hgrid := sampledOnGrid hfitted.knots_ascending hstep hfew
    exact ⟨_, by rw [resample_eq, if_pos hfew], hgrid⟩

/-- A spline with knots at less than two half steps from each other. -/
def barelyShort : Spline ℚ :=
  ⟨⟨0, 0, 0⟩, ⟨1 - 1 / (2 * 10 ^ 9), 1, 0⟩, []⟩

/-- The last point of the grid passes the last knot by all that it may pass it by. -/
theorem grid_ends_behind_last_knot :
    fit ⟨[0, 1 - 1 / (2 * 10 ^ 9)], [0, 1]⟩ = .ok barelyShort ∧ (0 : ℚ) < 1 / 2 ∧
      ∃ t, barelyShort.resample (1 / 2) = .ok t ∧ t.x.length = 3 ∧ t.x[2]? = some 1 := by
  have hfit : fit ⟨[0, 1 - 1 / (2 * 10 ^ 9)], [0, 1]⟩ = .ok barelyShort := by
    with_unfolding_all rfl
  have hstep : (0 : ℚ) < 1 / 2 := by norm_num
  have hcount : ⌊(barelyShort.last.x - barelyShort.first.x) / (1 / 2) + 1 / 10 ^ 9⌋ = 2 := by
    rw [Int.floor_eq_iff]
    norm_num [barelyShort, last]
  obtain ⟨-, -, -, hgrid⟩ := resampling_covers_the_knots hfit hstep
  obtain ⟨t, ht, hsampled⟩ := hgrid (by rw [hcount]; norm_num)
  have hlength : t.x.length = 3 := by
    have h := hsampled.length_eq
    rw [hcount] at h
    omega
  refine ⟨hfit, hstep, t, ht, hlength, ?_⟩
  rw [hsampled.places 2 (by omega)]
  norm_num [barelyShort]

end Spline

/-- Values at equal distances, from a place on. -/
def Series.evenly (start step : ℚ) (ys : List ℚ) : Series ℚ :=
  ⟨(List.range ys.length).map fun i : Nat => start + i * step, ys⟩

section Evenly

variable {start step : ℚ} {ys : List ℚ} (htwo : 2 ≤ ys.length)
include htwo

theorem Series.fits_evenly (hstep : 0 < step) : Spline.Fits (.evenly start step ys) where
  lengths := by simp [evenly]
  two_le := by simpa [evenly] using htwo
  ascending := by
    refine List.pairwise_map.2 (List.pairwise_lt_range.imp ?_)
    intro i j hij
    have hcast : (i : ℚ) < j := by exact_mod_cast hij
    have hscaled : i * step < j * step := mul_lt_mul_of_pos_right hcast hstep
    linarith

namespace Spline.FittedTo

variable {f : Spline ℚ} (h : f.FittedTo (.evenly start step ys))
include h

theorem first_of_evenly : f.first.x = start := by
  have hhead := h.head?_x
  rw [List.head?_eq_getElem?, Series.evenly, List.getElem?_map,
    List.getElem?_range (by omega)] at hhead
  simpa using hhead.symm

theorem last_of_evenly : f.last.x = start + (ys.length - 1 : Nat) * step := by
  have hlast := h.getLast?_x
  rw [Series.evenly, List.getLast?_map, List.getLast?_range, if_neg (by omega)] at hlast
  simpa using hlast.symm

/-- The tolerance adds no point to a grid that ends at the last knot. -/
theorem stepCount_of_evenly (hstep : 0 < step) : f.stepCount step = (ys.length - 1 : Nat) := by
  have hquotient : (f.last.x - f.first.x) / step = (ys.length - 1 : Nat) := by
    rw [h.last_of_evenly htwo, h.first_of_evenly htwo, add_sub_cancel_left,
      mul_div_cancel_right₀ _ hstep.ne']
  have htolerance : ⌊(1 / 10 ^ 9 : ℚ)⌋ = 0 := by
    rw [Int.floor_eq_zero_iff]
    norm_num
  rw [stepCount_eq, hquotient, Int.floor_natCast_add, htolerance, add_zero]

theorem resample_of_evenly (hstep : 0 < step) (hlimit : ys.length ≤ gridLimit) :
    f.resample step = .ok (.evenly start step ys) := by
  have hcount := h.stepCount_of_evenly htwo hstep
  have hlength : (f.stepCount step + 1).toNat = ys.length := by omega
  have hplaces : (List.range ys.length).map (f.gridPlace step) =
      (Series.evenly start step ys).x := by
    apply List.map_congr_left
    intro i hi
    rw [gridPlace, h.first_of_evenly htwo]
  rw [resample_eq, if_pos (by omega), hlength, onGrid, hplaces, sampledAt, h.map_valueAt]

end Spline.FittedTo
end Evenly

/-- A series whose places lie one step from each other is fitted and resampled to itself, so that
its signal has the levels of its own values. -/
theorem even_series_are_kept (start : ℚ) {step : ℚ} (hstep : 0 < step) {ys : List ℚ}
    (htwo : 2 ≤ ys.length) (hlimit : ys.length ≤ 1000000) :
    (∃ f, Spline.fit (.evenly start step ys) = .ok f ∧
      f.resample step = .ok (.evenly start step ys)) ∧
    ∀ (c : Classifier ℚ) (xs : List ℚ),
      (⟨step, c⟩ : Sampling ℚ).signal (.evenly start step ys) = c.classify ⟨xs, ys⟩ := by
  have hfits : Spline.Fits (.evenly start step ys) := Series.fits_evenly htwo hstep
  obtain ⟨f, hf⟩ := Spline.exists_fit_iff.2 hfits
  have hresample := (Spline.fit_eq_ok_iff.1 hf).resample_of_evenly htwo hstep hlimit
  refine ⟨⟨f, hf, hresample⟩, ?_⟩
  intro c xs
  rw [Sampling.signal_eq_bind, Sampling.resampled_of_fit _ hf, hresample]
  exact c.classify_congr rfl

def threeEvenValues : Series ℚ :=
  ⟨[-1, -2 / 3, -1 / 3], [0, 3, -1 / 2]⟩

/-- A wave with a peak in the middle, sampled at thirds. -/
theorem three_even_values_are_kept :
    (0 : ℚ) < 1 / 3 ∧ 2 ≤ threeEvenValues.y.length ∧ threeEvenValues.y.length ≤ 1000000 ∧
      (∃ f, Spline.fit threeEvenValues = .ok f ∧ f.resample (1 / 3) = .ok threeEvenValues) ∧
      (⟨1 / 3, .neighbour (1 / 10)⟩ : Sampling ℚ).signal threeEvenValues = .ok ⟨[1], [1]⟩ := by
  have hstep : (0 : ℚ) < 1 / 3 := by norm_num
  have htwo : 2 ≤ threeEvenValues.y.length := by decide
  have hlimit : threeEvenValues.y.length ≤ 1000000 := by decide
  have hseries : Series.evenly (-1) (1 / 3) threeEvenValues.y = threeEvenValues := by
    norm_num [Series.evenly, threeEvenValues, List.range_succ]
  have hkept := even_series_are_kept (-1) hstep htwo hlimit
  rw [hseries] at hkept
  refine ⟨hstep, htwo, hlimit, hkept.1, ?_⟩
  rw [hkept.2 _ []]
  with_unfolding_all rfl

end Swell

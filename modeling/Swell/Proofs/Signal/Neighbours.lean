import Mathlib.Algebra.Order.Field.Rat
import Mathlib.Order.Lattice
import Mathlib.Tactic.Linarith
import Mathlib.Tactic.NormNum
import Swell.Signal.Classifier

/-!
# The shape behind a level

What the comparison with two neighbours says about a value, over rational numbers. The threshold
for a peak is a multiple of the higher neighbour, so that it lies below that neighbour where both
are negative. Main statements: a value has level `-1` only below both neighbours; where one
neighbour is not negative, a value has level `1` only above both, and level `-1` wherever it is
below both; where both are negative, the values from the threshold up to the higher neighbour have
level `1` as well.
-/
namespace Swell

def IsAboveBoth (before value after : ℚ) : Prop :=
  before < value ∧ after < value

def IsBelowBoth (before value after : ℚ) : Prop :=
  value < before ∧ value < after

/-- What a peak has to exceed: the higher neighbour and a part of its value. -/
def peakThreshold (margin before after : ℚ) : ℚ :=
  max before after + max before after * margin

theorem isAboveBoth_iff (before value after : ℚ) :
    IsAboveBoth before value after ↔ max before after < value := by
  rw [IsAboveBoth, max_lt_iff]

theorem isBelowBoth_iff (before value after : ℚ) :
    IsBelowBoth before value after ↔ value < min before after := by
  rw [IsBelowBoth, lt_min_iff]

section Threshold

variable {margin : ℚ} (hmargin : 0 < margin) (before after : ℚ)
include hmargin

theorem peakThreshold_lt_iff (value : ℚ) :
    peakThreshold margin before after < value ↔
      after + after * margin < value ∧ before + before * margin < value := by
  rw [peakThreshold]
  rcases le_total before after with h | h
  · have hscaled : before * margin ≤ after * margin := mul_le_mul_of_nonneg_right h hmargin.le
    rw [max_eq_right h]
    constructor
    · intro hlt
      exact ⟨hlt, by linarith⟩
    · intro hlt
      exact hlt.1
  · have hscaled : after * margin ≤ before * margin := mul_le_mul_of_nonneg_right h hmargin.le
    rw [max_eq_left h]
    constructor
    · intro hlt
      exact ⟨by linarith, hlt⟩
    · intro hlt
      exact hlt.2

/-- The threshold does not lie below the higher neighbour as long as that one is not negative. -/
theorem max_le_peakThreshold_iff :
    max before after ≤ peakThreshold margin before after ↔ 0 ≤ before ∨ 0 ≤ after := by
  rw [peakThreshold, le_add_iff_nonneg_right, mul_nonneg_iff_of_pos_right hmargin, le_max_iff]

end Threshold

section Level

variable {margin : ℚ} (hmargin : 0 < margin) (before value after : ℚ)
include hmargin

theorem neighbourLevel_eq_ite :
    neighbourLevel margin before value after =
      if peakThreshold margin before after < value then 1
      else if value < after ∧ value < before then -1 else 0 := by
  simp only [neighbourLevel, Scalar.lt, Bool.and_eq_true, decide_eq_true_eq,
    peakThreshold_lt_iff hmargin before after value]

theorem neighbourLevel_eq_one_iff :
    neighbourLevel margin before value after = 1 ↔ peakThreshold margin before after < value := by
  rw [neighbourLevel_eq_ite hmargin]
  split
  · next h => simp [h]
  · next h => split <;> simp [h]

theorem neighbourLevel_eq_neg_one_iff :
    neighbourLevel margin before value after = -1 ↔
      IsBelowBoth before value after ∧ value ≤ peakThreshold margin before after := by
  rw [neighbourLevel_eq_ite hmargin, IsBelowBoth]
  split
  · next h => simp [not_le.2 h]
  · next h =>
    split
    · next hbelow => simp [hbelow, not_lt.1 h]
    · next hbelow =>
      have hnot : ¬(value < before ∧ value < after) := by
        intro hboth
        exact hbelow hboth.symm
      simp [hnot]

end Level

/-- What a level says about the value between its neighbours. -/
structure TellsShape (margin before value after : ℚ) (l : Level) : Prop where
  /-- There are no other levels. -/
  range : l = 1 ∨ l = 0 ∨ l = -1
  /-- Peaks are the values over the threshold, whatever the signs are. -/
  peak_iff : l = 1 ↔ peakThreshold margin before after < value
  /-- Troughs are below both neighbours, whatever the signs are. -/
  trough : l = -1 → IsBelowBoth before value after
  /-- Unless both neighbours are negative, peaks are above both. -/
  peak : 0 ≤ before ∨ 0 ≤ after → l = 1 → IsAboveBoth before value after
  /-- Unless both neighbours are negative, what is below both is a trough. -/
  below : 0 ≤ before ∨ 0 ≤ after → IsBelowBoth before value after → l = -1
  /-- Between negative neighbours whatever is above both is a peak. -/
  above : before < 0 → after < 0 → IsAboveBoth before value after → l = 1
  /-- The values below both neighbours that are not troughs. -/
  missed_trough : IsBelowBoth before value after ∧ l ≠ -1 ↔
    peakThreshold margin before after < value ∧ value < min before after

theorem tellsShape_neighbourLevel {margin : ℚ} (hmargin : 0 < margin) (before value after : ℚ) :
    TellsShape margin before value after (neighbourLevel margin before value after) := by
  have hone := neighbourLevel_eq_one_iff hmargin before value after
  have hneg := neighbourLevel_eq_neg_one_iff hmargin before value after
  have hthreshold := max_le_peakThreshold_iff hmargin before after
  constructor
  case range =>
    rw [neighbourLevel_eq_ite hmargin]
    split
    · simp
    · split <;> simp
  case peak_iff => exact hone
  case trough =>
    intro h
    exact (hneg.1 h).1
  case peak =>
    intro hsign h
    rw [isAboveBoth_iff]
    exact (hthreshold.2 hsign).trans_lt (hone.1 h)
  case below =>
    intro hsign hbelow
    refine hneg.2 ⟨hbelow, ?_⟩
    have hmax : value ≤ max before after := le_max_of_le_left hbelow.1.le
    exact hmax.trans (hthreshold.2 hsign)
  case above =>
    intro hbefore hafter habove
    have hlow : peakThreshold margin before after < max before after := by
      rw [← not_le, hthreshold]
      simp [hbefore, hafter]
    rw [isAboveBoth_iff] at habove
    exact hone.2 (hlow.trans habove)
  case missed_trough =>
    rw [Ne, hneg, isBelowBoth_iff, not_and, not_le]
    constructor
    · intro h
      exact ⟨h.2 h.1, h.1⟩
    · intro h
      exact ⟨h.2, fun _ => h.1⟩

section Series

variable {α : Type} [Scalar α] (margin : α) (ys : List α)

theorem length_neighbourLevels : (neighbourLevels margin ys).length = ys.length - 2 := by
  simp only [neighbourLevels, List.length_map, List.length_zip, List.length_tail]
  omega

theorem neighbourLevels_getElem? {i : Nat} {before value after : α} (hbefore : ys[i]? = some before)
    (hvalue : ys[i + 1]? = some value) (hafter : ys[i + 2]? = some after) :
    (neighbourLevels margin ys)[i]? = some (neighbourLevel margin before value after) := by
  simp [neighbourLevels, List.zip, List.getElem?_zipWith, hbefore, hvalue, hafter]

end Series

theorem neighbourLevel_const {margin : ℚ} (hmargin : 0 < margin) (c : ℚ) :
    neighbourLevel margin c c c = if c < 0 then 1 else 0 := by
  have hthreshold : peakThreshold margin c c < c ↔ c < 0 := by
    have h := max_le_peakThreshold_iff hmargin c c
    rw [max_self, or_self] at h
    rw [← not_le, ← not_le, h]
  simp [neighbourLevel_eq_ite hmargin, hthreshold]

theorem neighbourLevels_replicate {margin : ℚ} (hmargin : 0 < margin) (n : Nat) (c : ℚ) :
    neighbourLevels margin (List.replicate n c) =
      List.replicate (n - 2) (if c < 0 then 1 else 0) := by
  rw [List.eq_replicate_iff, length_neighbourLevels, List.length_replicate]
  refine ⟨rfl, ?_⟩
  intro l hl
  obtain ⟨i, hi⟩ := List.mem_iff_getElem?.1 hl
  have hlt : i < n - 2 := by
    have := (List.getElem?_eq_some_iff.1 hi).1
    rwa [length_neighbourLevels, List.length_replicate] at this
  have hlevel := neighbourLevels_getElem? margin (List.replicate n c)
    (List.getElem?_replicate_of_lt (by omega : i < n))
    (List.getElem?_replicate_of_lt (by omega : i + 1 < n))
    (List.getElem?_replicate_of_lt (by omega : i + 2 < n))
  rw [hi, neighbourLevel_const hmargin] at hlevel
  exact Option.some.inj hlevel

namespace Classifier

theorem check_neighbour_eq_ok_iff (margin : ℚ) :
    (neighbour margin).check = .ok () ↔ 0 < margin := by
  simp [check, Scalar.isPositive, Scalar.isFinite, Scalar.lt, Scalar.ofNat]

/-- Comparison with the neighbours gives one level to each inner value, at the positions from one
on, and these levels tell the shape of the series as far as its values are not negative. A series
of equal values is flat, unless these are negative: then all its inner values are peaks. -/
theorem neighbour_levels_tell_shape {margin : ℚ} (hcheck : (neighbour margin).check = .ok ())
    (s : Series ℚ) :
    ∃ signal, (neighbour margin).classify s = .ok signal ∧
      signal.x = (List.range (s.y.length - 2)).map (fun i => Int.ofNat (i + 1)) ∧
      signal.y.length = s.y.length - 2 ∧
      (∀ (i : Nat) (before value after : ℚ), s.y[i]? = some before → s.y[i + 1]? = some value →
        s.y[i + 2]? = some after →
        ∃ l, signal.y[i]? = some l ∧ TellsShape margin before value after l) ∧
      ∀ (n : Nat) (c : ℚ), s.y = List.replicate n c →
        signal.y = List.replicate (n - 2) (if c < 0 then 1 else 0) := by
  have hmargin := (check_neighbour_eq_ok_iff margin).1 hcheck
  have hlength := length_neighbourLevels margin s.y
  refine ⟨_, rfl, ?_, hlength, ?_, ?_⟩
  · rw [hlength]
  · intro i before value after hbefore hvalue hafter
    exact ⟨_, neighbourLevels_getElem? margin s.y hbefore hvalue hafter,
      tellsShape_neighbourLevel hmargin before value after⟩
  · intro n c hy
    rw [hy]
    exact neighbourLevels_replicate hmargin n c

/-- A peak and a trough among positive values. -/
theorem neighbour_levels_of_positive_series :
    (neighbour (1 / 2 : ℚ)).check = .ok () ∧
      ∃ signal, (neighbour (1 / 2 : ℚ)).classify ⟨[0, 1, 2, 3], [4, 8, 1, 4]⟩ = .ok signal ∧
        signal.x = [1, 2] ∧
        (∃ l, signal.y[0]? = some l ∧ TellsShape (1 / 2) 4 8 1 l) ∧
        ∃ l, signal.y[1]? = some l ∧ TellsShape (1 / 2) 8 1 4 l := by
  have hcheck : (neighbour (1 / 2 : ℚ)).check = .ok () :=
    (check_neighbour_eq_ok_iff _).2 (by norm_num)
  obtain ⟨signal, hsignal, hx, -, hshape, -⟩ :=
    neighbour_levels_tell_shape hcheck ⟨[0, 1, 2, 3], [4, 8, 1, 4]⟩
  exact ⟨hcheck, signal, hsignal, hx, hshape 0 4 8 1 rfl rfl rfl, hshape 1 8 1 4 rfl rfl rfl⟩

/-- Between negative values the level of a value below both neighbours is that of a peak, and so
are the levels of equal negative values. -/
theorem low_value_between_negatives_is_peak :
    (neighbour (1 / 2 : ℚ)).check = .ok () ∧
      (neighbour (1 / 2 : ℚ)).classify ⟨[0, 1, 2], [-2, -5 / 2, -2]⟩ = .ok ⟨[1], [1]⟩ ∧
      IsBelowBoth (-2) (-5 / 2) (-2) ∧
      (neighbour (1 / 2 : ℚ)).classify ⟨[0, 1, 2], [-1, -1, -1]⟩ = .ok ⟨[1], [1]⟩ := by
  have hmargin : (0 : ℚ) < 1 / 2 := by norm_num
  have hlow : neighbourLevel (1 / 2 : ℚ) (-2) (-5 / 2) (-2) = 1 := by
    rw [neighbourLevel_eq_one_iff hmargin]
    norm_num [peakThreshold]
  have hequal : neighbourLevel (1 / 2 : ℚ) (-1) (-1) (-1) = 1 := by
    rw [neighbourLevel_const hmargin]
    norm_num
  refine ⟨(check_neighbour_eq_ok_iff _).2 hmargin, ?_, ?_, ?_⟩
  · simpa [classify, neighbourLevels] using hlow
  · norm_num [IsBelowBoth]
  · simpa [classify, neighbourLevels] using hequal

end Classifier
end Swell

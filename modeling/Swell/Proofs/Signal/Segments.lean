import Mathlib.Algebra.Polynomial.Derivative
import Mathlib.Tactic.ComputeDegree
import Swell.Proofs.Signal.Bends

/-!
# The polynomials of segments

Each segment of a spline evaluates a polynomial. Main statements, over rational numbers: this
polynomial is at most cubic, goes through both knots, and has the bends of the knots for its second
derivative there; and two segments that meet have the same slope exactly if the equation for the
bend at their common knot holds.
-/
namespace Swell.Segment
open Polynomial

variable (s : Segment ℚ)

/-- The distance between the knots. -/
def width : ℚ :=
  s.right.x - s.left.x

theorem valueAt_eq (t : ℚ) :
    s.valueAt t = s.left.bend * ((s.right.x - t) * ((s.right.x - t) * (s.right.x - t))) /
        (6 * s.width) +
      s.right.bend * ((t - s.left.x) * ((t - s.left.x) * (t - s.left.x))) / (6 * s.width) +
      (s.left.y / s.width - s.left.bend * s.width / 6) * (s.right.x - t) +
      (s.right.y / s.width - s.right.bend * s.width / 6) * (t - s.left.x) := rfl

/-- The polynomial that the segment evaluates. -/
noncomputable def polynomial : ℚ[X] :=
  C (s.left.bend / (6 * s.width)) * (C s.right.x - X) ^ 3 +
    C (s.right.bend / (6 * s.width)) * (X - C s.left.x) ^ 3 +
    C (s.left.y / s.width - s.left.bend * s.width / 6) * (C s.right.x - X) +
    C (s.right.y / s.width - s.right.bend * s.width / 6) * (X - C s.left.x)

@[simp] theorem eval_polynomial (t : ℚ) : s.polynomial.eval t = s.valueAt t := by
  rw [valueAt_eq]
  simp only [polynomial, eval_add, eval_mul, eval_sub, eval_pow, eval_C, eval_X]
  ring

theorem natDegree_polynomial_le : s.polynomial.natDegree ≤ 3 := by
  unfold polynomial
  compute_degree

theorem eval_derivative (t : ℚ) :
    s.polynomial.derivative.eval t =
      (s.right.bend * (t - s.left.x) ^ 2 - s.left.bend * (s.right.x - t) ^ 2) / (2 * s.width) +
        (s.right.y - s.left.y) / s.width - (s.right.bend - s.left.bend) * s.width / 6 := by
  simp [polynomial, derivative_pow]
  ring

theorem eval_derivative_derivative (t : ℚ) :
    s.polynomial.derivative.derivative.eval t =
      (s.left.bend * (s.right.x - t) + s.right.bend * (t - s.left.x)) / s.width := by
  simp [polynomial, derivative_pow]
  ring

variable {s} (hs : s.left.x < s.right.x)
include hs

theorem width_ne_zero : s.width ≠ 0 :=
  (sub_pos.2 hs).ne'

theorem valueAt_left : s.valueAt s.left.x = s.left.y := by
  have hw := width_ne_zero hs
  rw [valueAt_eq, sub_self, ← width]
  field_simp
  ring

theorem valueAt_right : s.valueAt s.right.x = s.right.y := by
  have hw := width_ne_zero hs
  rw [valueAt_eq, sub_self, ← width]
  field_simp
  ring

theorem eval_derivative_left :
    s.polynomial.derivative.eval s.left.x =
      (s.right.y - s.left.y) / s.width - s.width * (2 * s.left.bend + s.right.bend) / 6 := by
  have hw := width_ne_zero hs
  rw [eval_derivative, sub_self, ← width]
  field_simp
  ring

theorem eval_derivative_right :
    s.polynomial.derivative.eval s.right.x =
      (s.right.y - s.left.y) / s.width + s.width * (s.left.bend + 2 * s.right.bend) / 6 := by
  have hw := width_ne_zero hs
  rw [eval_derivative, sub_self, ← width]
  field_simp
  ring

theorem eval_derivative_derivative_left :
    s.polynomial.derivative.derivative.eval s.left.x = s.left.bend := by
  have hw := width_ne_zero hs
  rw [eval_derivative_derivative, sub_self, ← width]
  field_simp
  ring

theorem eval_derivative_derivative_right :
    s.polynomial.derivative.derivative.eval s.right.x = s.right.bend := by
  have hw := width_ne_zero hs
  rw [eval_derivative_derivative, sub_self, ← width]
  field_simp
  ring

/-- Two segments that meet have the same slope at their common knot if the equation for its bend
holds, and only then. -/
theorem slopes_eq_iff {t : Segment ℚ} (ht : t.left.x < t.right.x) (hmeet : s.right = t.left) :
    s.polynomial.derivative.eval s.right.x = t.polynomial.derivative.eval t.left.x ↔
      (BendRow.ofPoints (s.left.x, s.left.y) (s.right.x, s.right.y) (t.right.x, t.right.y)).Holds
        s.left.bend s.right.bend t.right.bend := by
  rw [eval_derivative_right hs, eval_derivative_left ht, BendRow.ofPoints_eq, BendRow.Holds,
    ← hmeet, width, width, ← hmeet]
  constructor
  · intro h
    linarith
  · intro h
    linarith

end Swell.Segment

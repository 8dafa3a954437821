import Mathlib.Data.Prod.Lex
import Mathlib.Order.Compare
import Swell.Scalar

/-!
# The order of floating-point numbers

Main statements: floating-point numbers compare as their places on a line do, where both zeros have
one place and not-a-numbers have none; so one comparison can be put behind another, whatever the
numbers are, and any two that are numbers can be compared.
-/
namespace Swell.Scalar

open Float.Model

/-- A place on the line: the side of zero, with two for infinite numbers, then the exponent and the
mantissa, which both count downwards below zero. -/
abbrev Place := ℤ ×ₗ ℤ ×ₗ ℤ

/-- The place of a number; both zeros have one place, and not-a-numbers have none. -/
def placeOf? : UnpackedFloat → Option Place
  | .notANumber => none
  | .infinity .negative => some (toLex (-2, toLex (0, 0)))
  | .finite .negative mantissa exponent _ => some (toLex (-1, toLex (-exponent, -mantissa)))
  | .zero _ => some (toLex (0, toLex (0, 0)))
  | .finite .positive mantissa exponent _ => some (toLex (1, toLex (exponent, mantissa)))
  | .infinity .positive => some (toLex (2, toLex (0, 0)))

def place? (x : Float) : Option Place :=
  placeOf? x.toModel.unpack

theorem compare_toLex (a b c a' b' c' : ℤ) :
    compare (toLex (a, toLex (b, c)) : Place) (toLex (a', toLex (b', c'))) =
      (compare a a').then ((compare b b').then (compare c c')) := rfl

theorem compare_natCast (m n : ℕ) : compare (m : ℤ) (n : ℤ) = compare m n := by
  simp only [Int.compare_eq_ite_lt, Nat.compare_eq_ite_lt, Int.ofNat_lt]

theorem compare_neg_neg (a b : ℤ) : compare (-a) (-b) = (compare a b).swap := by
  rw [Int.compare_swap]
  simp only [Int.compare_eq_ite_lt, Int.neg_lt_neg_iff]

/-- Numbers compare as their places do. -/
theorem compare_eq (x y : UnpackedFloat) :
    x.compare y = (placeOf? x).bind fun p => (placeOf? y).map fun q => compare p q := by
  cases x with
  | notANumber => rfl
  | infinity s =>
    cases s <;> cases y with
    | notANumber => rfl
    | infinity t => cases t <;> rfl
    | zero t => rfl
    | finite t n f hn => cases t <;> rfl
  | zero s =>
    cases y with
    | notANumber => rfl
    | infinity t => cases t <;> rfl
    | zero t => rfl
    | finite t n f hn => cases t <;> rfl
  | finite s m e hm =>
    cases y with
    | notANumber => cases s <;> rfl
    | infinity t => cases s <;> cases t <;> rfl
    | zero t => cases s <;> rfl
    | finite t n f hn =>
      cases s <;> cases t
      · -- below zero the number that is further away comes first
        change some ((compare e f).then (compare m n)).swap =
          some (compare (toLex (-1, toLex (-e, -m)) : Place) (toLex (-1, toLex (-f, -n))))
        rw [compare_toLex, compare_neg_neg e f, compare_neg_neg m n, compare_natCast,
          Ordering.swap_then]
        rfl
      · rfl
      · rfl
      · change some ((compare e f).then (compare m n)) =
          some (compare (toLex (1, toLex (e, m)) : Place) (toLex (1, toLex (f, n))))
        rw [compare_toLex, compare_natCast]
        rfl

theorem lt_iff_place (x y : Float) :
    x < y ↔ ∃ p q, place? x = some p ∧ place? y = some q ∧ p < q := by
  have hcompare : x < y ↔ x.toModel.unpack.compare y.toModel.unpack = some .lt := by
    change decide (x.toModel.unpack.lt y.toModel.unpack = true) = true ↔ _
    rw [UnpackedFloat.lt, decide_eq_true_eq, beq_iff_eq]
  rw [hcompare, compare_eq]
  simp only [place?, Option.bind_eq_some_iff, Option.map_eq_some_iff, compare_lt_iff_lt,
    exists_and_left]

theorem le_iff_place (x y : Float) :
    x ≤ y ↔ ∃ p q, place? x = some p ∧ place? y = some q ∧ p ≤ q := by
  have hcompare : x ≤ y ↔
      ∃ o, x.toModel.unpack.compare y.toModel.unpack = some o ∧ o.isLE = true := by
    change decide (x.toModel.unpack.le y.toModel.unpack = true) = true ↔ _
    rw [UnpackedFloat.le, decide_eq_true_eq, Option.any_eq_true]
  rw [hcompare, compare_eq]
  constructor
  · rintro ⟨o, ho, hle⟩
    obtain ⟨p, hp, ho⟩ := Option.bind_eq_some_iff.1 ho
    obtain ⟨q, hq, rfl⟩ := Option.map_eq_some_iff.1 ho
    exact ⟨p, q, hp, hq, compare_le_iff_le.1 (Ordering.ne_gt_iff_isLE.2 hle)⟩
  · rintro ⟨p, q, hp, hq, hle⟩
    refine ⟨compare p q, ?_, Ordering.ne_gt_iff_isLE.1 (compare_le_iff_le.2 hle)⟩
    rw [place?] at hp hq
    rw [hp, hq, Option.bind_some, Option.map_some]

/-- A not-a-number is on neither side of a comparison that holds. -/
theorem lt_of_le_of_lt {x y z : Float} (hxy : x ≤ y) (hyz : y < z) : x < z := by
  obtain ⟨p, q, hp, hq, hle⟩ := (le_iff_place x y).1 hxy
  obtain ⟨q', r, hq', hr, hlt⟩ := (lt_iff_place y z).1 hyz
  obtain rfl : q = q' := Option.some.inj (hq.symm.trans hq')
  exact (lt_iff_place x z).2 ⟨p, r, hp, hr, hle.trans_lt hlt⟩

theorem le_trans {x y z : Float} (hxy : x ≤ y) (hyz : y ≤ z) : x ≤ z := by
  obtain ⟨p, q, hp, hq, hpq⟩ := (le_iff_place x y).1 hxy
  obtain ⟨q', r, hq', hr, hqr⟩ := (le_iff_place y z).1 hyz
  obtain rfl : q = q' := Option.some.inj (hq.symm.trans hq')
  exact (le_iff_place x z).2 ⟨p, r, hp, hr, hpq.trans hqr⟩

theorem le_of_lt {x y : Float} (h : x < y) : x ≤ y := by
  obtain ⟨p, q, hp, hq, hlt⟩ := (lt_iff_place x y).1 h
  exact (le_iff_place x y).2 ⟨p, q, hp, hq, hlt.le⟩

theorem lt_irrefl (x : Float) : ¬x < x := by
  intro h
  obtain ⟨p, q, hp, hq, hlt⟩ := (lt_iff_place x x).1 h
  obtain rfl : p = q := Option.some.inj (hp.symm.trans hq)
  exact hlt.false

instance : Trans (fun x y : Float => x < y) (fun x y : Float => x < y)
    (fun x y : Float => x < y) where
  trans hxy hyz := lt_of_le_of_lt (le_of_lt hxy) hyz

theorem exists_place {x : Float} (h : x.isNaN = false) : ∃ p, place? x = some p := by
  have hunpack : x.toModel.unpack.isNaN = false := h
  rw [place?]
  cases hx : x.toModel.unpack with
  | notANumber =>
    rw [hx] at hunpack
    cases hunpack
  | infinity s => cases s <;> exact ⟨_, rfl⟩
  | zero s => exact ⟨_, rfl⟩
  | finite s m e hm => cases s <;> exact ⟨_, rfl⟩

/-- Any two numbers can be compared. -/
theorem not_le_iff_lt {x y : Float} (hx : x.isNaN = false) (hy : y.isNaN = false) :
    ¬x ≤ y ↔ y < x := by
  obtain ⟨p, hp⟩ := exists_place hx
  obtain ⟨q, hq⟩ := exists_place hy
  simp only [le_iff_place, lt_iff_place, hp, hq, Option.some.injEq, exists_eq_left', not_le,
    exists_and_left]

theorem isNaN_eq_false_of_isFinite {x : Float} (h : x.isFinite = true) : x.isNaN = false := by
  have hunpack : x.toModel.unpack.isFinite = true := h
  change x.toModel.unpack.isNaN = false
  cases hx : x.toModel.unpack with
  | notANumber =>
    rw [hx] at hunpack
    cases hunpack
  | infinity s => rfl
  | zero s => rfl
  | finite s m e hm => rfl

end Swell.Scalar

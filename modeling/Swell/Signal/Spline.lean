import Swell.Signal.Series

/-!
# Natural cubic splines

The spline through the points of a series is a cubic polynomial between each two neighbouring
points. It is given by its second derivative at the points, the *bend*, which is zero at both
ends and elsewhere solves a tridiagonal system. Main statement: there is one segment between each
two neighbouring knots, and it is the one that `segmentAt` finds.
-/
namespace Swell

variable {α : Type} [Scalar α]

/-- A point of the spline, with the second derivative there. -/
structure Knot (α : Type) where
  x : α
  y : α
  bend : α

structure Segment (α : Type) where
  left : Knot α
  right : Knot α

namespace Segment

def cube (a : α) : α :=
  a * (a * a)

/-- The cubic polynomial of the segment, also outside its knots. -/
def valueAt (s : Segment α) (t : α) : α :=
  let six : α := Scalar.ofNat 6
  let h := s.right.x - s.left.x
  let a := s.right.x - t
  let b := t - s.left.x
  s.left.bend * cube a / (six * h) + s.right.bend * cube b / (six * h)
    + (s.left.y / h - s.left.bend * h / six) * a
    + (s.right.y / h - s.right.bend * h / six) * b

end Segment

/-- An equation `lower * before + diag * here + upper * after = rhs` between neighbouring bends. -/
structure BendRow (α : Type) where
  lower : α
  diag : α
  upper : α
  rhs : α

namespace BendRow

def ofPoints (p q r : α × α) : BendRow α :=
  let h := q.1 - p.1
  let k := r.1 - q.1
  ⟨h, Scalar.ofNat 2 * (h + k), k,
    Scalar.ofNat 6 * ((r.2 - q.2) / k - (q.2 - p.2) / h)⟩

def all (points : List (α × α)) : List (BendRow α) :=
  (points.zip (points.tail.zip points.tail.tail)).map fun t => ofPoints t.1 t.2.1 t.2.2

/-- Takes the bend of the row before out of a row. -/
def reduce (before row : BendRow α) : BendRow α :=
  let factor := row.lower / before.diag
  { row with diag := row.diag - factor * before.upper, rhs := row.rhs - factor * before.rhs }

def eliminateAfter (before : BendRow α) : List (BendRow α) → List (BendRow α)
  | [] => []
  | row :: rows =>
    let reduced := reduce before row
    reduced :: eliminateAfter reduced rows

def eliminate : List (BendRow α) → List (BendRow α)
  | [] => []
  | row :: rows => row :: eliminateAfter row rows

/-- Solves reduced rows from the last to the first. Behind the last row the bend is zero. -/
def substitute (rows : List (BendRow α)) : List α :=
  rows.foldr
    (fun row bends =>
      (row.rhs - row.upper * bends.headD (Scalar.ofNat 0)) / row.diag :: bends)
    []

end BendRow

/-- The second derivatives of the natural spline at the points. -/
def bends (points : List (α × α)) : List α :=
  Scalar.ofNat 0 :: BendRow.substitute (BendRow.eliminate (BendRow.all points))
    ++ [Scalar.ofNat 0]

structure Spline (α : Type) where
  first : Knot α
  second : Knot α
  rest : List (Knot α)

/-- The first place where a list does not increase, with the value there and the one before. -/
def firstDescent? (xs : List α) : Option (Nat × α × α) :=
  ((xs.zip xs.tail).zipIdx.find? fun p => Scalar.le p.1.2 p.1.1).map fun p =>
    (p.2 + 1, p.1.2, p.1.1)

namespace Spline

def fit (s : Series α) : Except (SignalFault α) (Spline α) :=
  if s.x.length ≠ s.y.length then .error (.unequalLengths s.x.length s.y.length)
  else if s.x.length < 2 then .error (.tooFewPoints s.x.length)
  else if (s.x ++ s.y).any fun v => !Scalar.isFinite v then .error .notFinite
  else
    match firstDescent? s.x with
    | some (index, value, previous) => .error (.notIncreasing index value previous)
    | none =>
      let points := s.x.zip s.y
      match points.zipWith (fun p m => (⟨p.1, p.2, m⟩ : Knot α)) (bends points) with
      | first :: second :: rest => .ok ⟨first, second, rest⟩
      | _ => .error (.tooFewPoints s.x.length)

def knots (s : Spline α) : List (Knot α) :=
  s.first :: s.second :: s.rest

def last (s : Spline α) : Knot α :=
  s.rest.getLastD s.second

/-- From a segment on, the last one whose left knot lies before `t`, the given one apart. -/
def segmentFrom (t : α) (s : Segment α) : List (Knot α) → Segment α
  | [] => s
  | k :: ks => if Scalar.precedes s.right.x t then segmentFrom t ⟨s.right, k⟩ ks else s

/-- The segment that is used for a place which is no knot: the one around it, or the nearest. -/
def segmentAt (s : Spline α) (t : α) : Segment α :=
  segmentFrom t ⟨s.first, s.second⟩ s.rest

def valueAt (s : Spline α) (t : α) : α :=
  match s.knots.find? fun k => Scalar.same k.x t with
  | some k => k.y
  | none => (s.segmentAt t).valueAt t

def span (s : Spline α) : α :=
  s.last.x - s.first.x

/-- The number of grid points from the first knot to the last, as a scalar. A point that misses
the last knot by a billionth of a step still counts. -/
def gridCount (s : Spline α) (step : α) : α :=
  Scalar.floor (s.span / step + Scalar.billionth) + Scalar.ofNat 1

def resample (s : Spline α) (step : α) : Except (SignalFault α) (Series α) :=
  let count := s.gridCount step
  if Scalar.isFinite count && Scalar.le count (Scalar.ofNat gridLimit) then
    let x := (List.range (Scalar.toNat count)).map fun i => s.first.x + Scalar.ofNat i * step
    .ok ⟨x, x.map s.valueAt⟩
  else .error (.gridTooLarge s.span step)

def segments (s : Spline α) : List (Segment α) :=
  s.knots.zipWith (⟨·, ·⟩) s.knots.tail

private theorem segmentFrom_mem (t : α) (s : Segment α) (ks : List (Knot α)) :
    segmentFrom t s ks = s ∨
      segmentFrom t s ks ∈ (s.right :: ks).zipWith (⟨·, ·⟩) ks := by
  induction ks generalizing s with
  | nil => simp [segmentFrom]
  | cons k ks ih =>
    unfold segmentFrom
    split
    · rcases ih ⟨s.right, k⟩ with h | h
      · exact .inr (by simp [h])
      · exact .inr (by simp only [List.zipWith_cons_cons, List.mem_cons]; exact .inr h)
    · exact .inl rfl

theorem segmentAt_mem (s : Spline α) (t : α) : s.segmentAt t ∈ s.segments := by
  rcases segmentFrom_mem t ⟨s.first, s.second⟩ s.rest with h | h
  · simp [segmentAt, segments, knots, h]
  · simp only [segmentAt, segments, knots, List.tail_cons, List.zipWith_cons_cons, List.mem_cons]
    exact .inr h

end Spline
end Swell

import Swell.Signal.Spline
import Swell.Sentence

/-!
# Classifiers

A classifier gives the samples of a series their levels: by comparison with the two neighbours,
or by the bin between bounds that the value falls into. Main statement: a search by halves counts
no more values than there are.
-/
namespace Swell

variable {α : Type}

inductive Classifier (α : Type) where
  /-- A peak exceeds both neighbours by a part of their value, a trough lies below both. -/
  | neighbour (margin : α)
  /-- The bin in the middle of the bounds is flat, those above it are peaks and those below it
  troughs. -/
  | breakpoints (bounds : List α)

inductive ClassifierFault (α : Type) where
  | badMargin (margin : α)
  | oddBounds (count : Nat)
  | unorderedBounds (bounds : List α)

namespace ClassifierFault

def message : ClassifierFault Float → String
  | .badMargin margin => "neighbour margin must be positive, got " ++ Decimal.prose margin
  | .oddBounds count => "breakpoints need an even, non-zero count, got " ++ toString count
  | .unorderedBounds bounds =>
    "breakpoints must be finite and strictly ascending: " ++ Decimal.listing bounds

end ClassifierFault

/-- How many values at the front of a list satisfy a condition, by halving the list. -/
def countByHalves (p : α → Bool) (xs : List α) : Nat :=
  match xs with
  | [] => 0
  | [x] => (p x).toNat
  | x :: y :: rest =>
    let xs := x :: y :: rest
    let half := xs.length / 2
    if (xs.drop half).head?.any p then half + countByHalves p (xs.drop half)
    else countByHalves p (xs.take (xs.length - half))
termination_by xs.length
decreasing_by
  all_goals
    simp only [List.length_drop, List.length_take, List.length_cons]
    omega

theorem countByHalves_le_length (p : α → Bool) (xs : List α) :
    countByHalves p xs ≤ xs.length := by
  fun_induction countByHalves p xs with
  | case1 => simp
  | case2 x => cases p x <;> simp
  | case3 x y rest xs half h ih =>
    have hx : xs.length = (x :: y :: rest).length := rfl
    simp only [List.length_drop] at ih
    omega
  | case4 x y rest xs half h ih =>
    have hx : xs.length = (x :: y :: rest).length := rfl
    simp only [List.length_take] at ih
    omega

variable [Scalar α]

def isAscending (xs : List α) : Bool :=
  (xs.zip xs.tail).all fun p => !Scalar.le p.2 p.1

def neighbourLevel (margin before value after : α) : Level :=
  if Scalar.lt (after + after * margin) value && Scalar.lt (before + before * margin) value then 1
  else if Scalar.lt value after && Scalar.lt value before then -1
  else 0

def neighbourLevels (margin : α) (ys : List α) : List Level :=
  (ys.zip (ys.tail.zip ys.tail.tail)).map fun t => neighbourLevel margin t.1 t.2.1 t.2.2

/-- The level of a value among bounds: how many bounds it reaches, less half their number. -/
def binLevel (bounds : List α) (value : α) : Except (SignalFault α) Level :=
  let level : Int :=
    countByHalves (fun b => Scalar.le b value) bounds - (bounds.length / 2 : Nat)
  if -128 ≤ level ∧ level ≤ 127 then .ok (Int8.ofInt level) else .error .tooManyBounds

namespace Classifier

/-- The fault of the classifier, if it has one. A margin has to be positive; bounds have to be even
in number, finite and in ascending order. -/
def check : Classifier α → Except (ClassifierFault α) Unit
  | .neighbour margin =>
    if Scalar.isPositive margin then .ok () else .error (.badMargin margin)
  | .breakpoints bounds =>
    if bounds.isEmpty || bounds.length % 2 == 1 then .error (.oddBounds bounds.length)
    else if bounds.all Scalar.isFinite && isAscending bounds then .ok ()
    else .error (.unorderedBounds bounds)

/-- How many levels of peaks the classifier can give, and of troughs as many. -/
def levels : Classifier α → Nat
  | .neighbour _ => 1
  | .breakpoints bounds => bounds.length / 2

/-- The levels of a series. Comparison with the neighbours leaves out the samples at both ends. -/
def classify (c : Classifier α) (s : Series α) : Except (SignalFault α) CoarseSignal :=
  match c with
  | .neighbour margin =>
    let levels := neighbourLevels margin s.y
    .ok ⟨(List.range levels.length).map fun i => Int.ofNat (i + 1), levels⟩
  | .breakpoints bounds => do
    let levels ← s.y.mapM (binLevel bounds)
    .ok ⟨(List.range levels.length).map Int.ofNat, levels⟩

end Classifier

structure Sampling (α : Type) where
  step : α
  classifier : Classifier α

namespace Sampling

/-- Fits a spline through a wave, resamples it and gives the samples their levels. -/
def signal (s : Sampling α) (wave : Series α) : Except (SignalFault α) CoarseSignal := do
  let spline ← Spline.fit wave
  let resampled ← spline.resample s.step
  s.classifier.classify resampled

end Sampling

namespace CoarseSignal

def sentence (s : CoarseSignal) : Sentence :=
  Sentence.ofSymbols (s.y.map Level.symbol)

end CoarseSignal
end Swell

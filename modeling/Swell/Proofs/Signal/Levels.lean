import Mathlib.Tactic.Choose
import Swell.Proofs.Result
import Swell.Signal.Classifier

/-!
# The levels that a classifier gives

Main statements: a classifier without a fault gives every series its levels, whatever its values
are, not-a-numbers included; and no level is further from flat than the classifier says.
-/
namespace Swell

variable {α : Type} [Scalar α]

/-- The distance of a level from flat is at most a given number. -/
def Level.Within (n : Nat) (l : Level) : Prop :=
  l.toInt.natAbs ≤ n

instance (n : Nat) (l : Level) : Decidable (l.Within n) :=
  inferInstanceAs (Decidable (l.toInt.natAbs ≤ n))

theorem within_neighbourLevel (margin before value after : α) :
    (neighbourLevel margin before value after).Within 1 := by
  unfold neighbourLevel
  split
  · decide
  · split
    · decide
    · decide

theorem within_neighbourLevels (margin : α) (ys : List α) :
    ∀ l ∈ neighbourLevels margin ys, l.Within 1 := by
  intro l hl
  obtain ⟨t, -, rfl⟩ := List.mem_map.1 hl
  exact within_neighbourLevel margin t.1 t.2.1 t.2.2

/-- As many bounds lie on both sides of the flat bin, so that the level of a value is at most half
their number away from it. -/
theorem exists_binLevel {bounds : List α} {n : Nat} (heven : bounds.length = 2 * n)
    (hn : n ≤ 127) (value : α) :
    ∃ l, binLevel bounds value = .ok l ∧ l.Within n := by
  have hcount := countByHalves_le_length (fun b => Scalar.le b value) bounds
  obtain ⟨level, hlevel⟩ : ∃ level : Int,
      level = countByHalves (fun b => Scalar.le b value) bounds - (bounds.length / 2 : Nat) :=
    ⟨_, rfl⟩
  have hlow : -(n : Int) ≤ level := by omega
  have hhigh : level ≤ n := by omega
  have hread : (Int8.ofInt level).toInt = level := by
    rw [Int8.toInt_ofInt_of_le (by omega) (by omega)]
  refine ⟨Int8.ofInt level, ?_, ?_⟩
  · rw [binLevel, ← hlevel]
    exact if_pos ⟨by omega, by omega⟩
  · rw [Level.Within, hread]
    omega

namespace Classifier

theorem even_bounds_of_check {bounds : List α} (h : (breakpoints bounds).check = .ok ()) :
    bounds.length = 2 * (breakpoints bounds).levels := by
  rw [check] at h
  split at h
  · cases h
  · next hodd =>
    simp only [Bool.or_eq_true, beq_iff_eq, not_or] at hodd
    rw [levels]
    omega

theorem classify_congr (c : Classifier α) {s t : Series α} (h : s.y = t.y) :
    c.classify s = c.classify t := by
  cases c <;> simp [classify, h]

theorem classify_breakpoints {bounds : List α} {level : α → Level}
    (hlevel : ∀ value, binLevel bounds value = .ok (level value)) (s : Series α) :
    (breakpoints bounds).classify s =
      .ok ⟨(List.range s.y.length).map Int.ofNat, s.y.map level⟩ := by
  have hall : s.y.mapM (binLevel bounds) = .ok (s.y.map level) :=
    mapM_eq_ok fun value _ => hlevel value
  rw [classify, hall, ← List.length_map level]
  rfl

/-- Nothing that a checked classifier is given makes it fail. -/
theorem exists_classify {c : Classifier α} (hc : c.check = .ok ()) (hn : c.levels ≤ 127)
    (s : Series α) :
    ∃ signal, c.classify s = .ok signal ∧ ∀ l ∈ signal.y, l.Within c.levels := by
  cases c with
  | neighbour margin => exact ⟨_, rfl, within_neighbourLevels margin s.y⟩
  | breakpoints bounds =>
    have hbin := exists_binLevel (even_bounds_of_check hc) hn
    choose level hlevel hwithin using hbin
    refine ⟨_, classify_breakpoints hlevel s, ?_⟩
    intro l hl
    obtain ⟨value, -, rfl⟩ := List.mem_map.1 hl
    exact hwithin value

end Classifier

namespace Sampling

def resampled (s : Sampling α) (wave : Series α) : Except (SignalFault α) (Series α) := do
  let spline ← Spline.fit wave
  spline.resample s.step

theorem signal_eq_bind (s : Sampling α) (wave : Series α) :
    s.signal wave = s.resampled wave >>= s.classifier.classify := by
  rw [signal, resampled]
  cases Spline.fit wave <;> rfl

theorem resampled_of_fit (s : Sampling α) {wave : Series α} {f : Spline α}
    (hf : Spline.fit wave = .ok f) : s.resampled wave = f.resample s.step := by
  rw [resampled, hf]
  rfl

end Sampling
end Swell

import Swell.Proofs.Result
import Swell.Settings

/-!
# Settings without a fault

Main statement: settings pass their check exactly if each of its conditions holds.
-/
namespace Swell

theorem require_eq_ok_iff (condition : Bool) (fault : SettingsFault) (u : Unit) :
    require condition fault = .ok u ↔ condition = true := by
  cases condition <;> simp [require]

namespace Settings

/-- What the check asks of settings. -/
structure Sound (s : Settings) : Prop where
  step : Scalar.isPositive s.sampling.step = true
  classifier : s.sampling.classifier.check = .ok ()
  one_le_levels : 1 ≤ s.rules.levels
  levels_le : s.rules.levels ≤ levelLimit
  named : s.sampling.classifier.levels ≤ s.rules.levels
  heights : s.rules.levels ≤ s.rules.heights.length
  positive : ∀ h ∈ s.rules.heights, Scalar.isPositive h = true

theorem check_eq_ok_iff (s : Settings) : s.check = .ok () ↔ s.Sound := by
  have hpositive : (s.rules.heights.find? fun h => !Scalar.isPositive h) = none ↔
      ∀ h ∈ s.rules.heights, Scalar.isPositive h = true := by
    simp
  constructor
  · intro h
    cases hclassifier : s.sampling.classifier.check with
    | error fault =>
      simp only [check, hclassifier, bind_eq_ok_iff] at h
      obtain ⟨_, _, _, hnone, _⟩ := h
      cases hnone
    | ok _ =>
      simp only [check, hclassifier, bind_eq_ok_iff, require_eq_ok_iff, Bool.and_eq_true,
        decide_eq_true_eq] at h
      obtain ⟨-, hstep, -, -, -, ⟨hone, hlevels⟩, -, hnamed, -, hheights, hfound⟩ := h
      cases hbad : s.rules.heights.find? fun h => !Scalar.isPositive h with
      | none => exact ⟨hstep, hclassifier, hone, hlevels, hnamed, hheights, hpositive.1 hbad⟩
      | some bad =>
        rw [hbad] at hfound
        cases hfound
  · intro h
    simp only [check, h.classifier, bind_eq_ok_iff, require_eq_ok_iff, Bool.and_eq_true,
      decide_eq_true_eq, hpositive.2 h.positive]
    exact ⟨(), h.step, (), trivial, (), ⟨h.one_le_levels, h.levels_le⟩, (), h.named, (), h.heights,
      trivial⟩

theorem check_preset (c : Collection) : (preset c).check = .ok () := by
  cases c with
  | alpha => rfl
  | beta => rfl

end Settings
end Swell

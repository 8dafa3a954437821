import Swell.Proofs.Grammar.Exactness
import Swell.Proofs.Grammar.Verdict
import Swell.Proofs.Settings.Check

/-!
# Strict and advisory enforcement

Strict rules refuse what advisory rules read and then warn of. Main statements: where all levels
have heights, strict rules lack the symbols whose heights are above the limits, and no others; so
both rules read the same sentences in the same way, apart from those with such a symbol.
-/
namespace Swell

namespace GrammarRules

def under (r : GrammarRules) (e : Enforcement) : GrammarRules :=
  { r with enforcement := e }

variable {r : GrammarRules} {l : Limits}

theorem kept_advisory_iff (limit : Float) (k : Nat) :
    (r.under .advisory).Kept limit k ↔ 1 ≤ k ∧ k ≤ r.levels := by
  simp [Kept, under]

/-- Strict rules keep what advisory rules keep, unless its name is that of a height above the
limit. -/
theorem kept_strict_iff (hh : r.levels ≤ r.heights.length) (marker : Char) (limit : Float)
    (k : Nat) :
    (r.under .strict).Kept limit k ↔ (r.under .advisory).Kept limit k ∧
      ¬r.NamesAbove marker limit (String.singleton marker ++ toString k) := by
  have hlimit : ∀ h, r.heightOf? k = some h →
      (limit < ((r.under .strict).heightOf? k).getD Decimal.infinity ↔ limit < h) := by
    intro h hheight
    have hunder : (r.under .strict).heightOf? k = some h := hheight
    rw [hunder, Option.getD_some]
  rw [kept_advisory_iff, Kept, namesAbove_marked_iff]
  constructor
  · rintro ⟨hone, hk, hfits⟩
    refine ⟨⟨hone, hk⟩, ?_⟩
    rintro ⟨h, hheight, habove⟩
    exact hfits ⟨rfl, (hlimit h hheight).2 habove⟩
  · rintro ⟨⟨hone, hk⟩, hfits⟩
    refine ⟨hone, hk, ?_⟩
    rintro ⟨-, habove⟩
    obtain ⟨h, hheight⟩ := exists_height hh hone hk
    exact hfits ⟨h, hheight, (hlimit h hheight).1 habove⟩

/-- What strict rules lack is what advisory rules warn of. -/
theorem spells_strict_iff (hh : r.levels ≤ r.heights.length) (w : String) :
    (r.under .strict).Spells l w ↔
      (r.under .advisory).Spells l w ∧ ¬r.TooHigh l w ∧ ¬r.TooLow l w := by
  constructor
  · rintro (rfl | ⟨k, hk, rfl⟩ | ⟨k, hk, rfl⟩)
    · exact ⟨.inl rfl, r.not_namesAbove_flat 'P' _, r.not_namesAbove_flat 'T' _⟩
    · obtain ⟨hkept, hfits⟩ := (kept_strict_iff hh 'P' _ k).1 hk
      exact ⟨.inr (.inl ⟨k, hkept, rfl⟩), hfits,
        r.not_namesAbove_of_ne (show 'P' ≠ 'T' by decide) _ k⟩
    · obtain ⟨hkept, hfits⟩ := (kept_strict_iff hh 'T' _ k).1 hk
      exact ⟨.inr (.inr ⟨k, hkept, rfl⟩),
        r.not_namesAbove_of_ne (show 'T' ≠ 'P' by decide) _ k, hfits⟩
  · rintro ⟨rfl | ⟨k, hk, rfl⟩ | ⟨k, hk, rfl⟩, hhigh, hlow⟩
    · exact .inl rfl
    · exact .inr (.inl ⟨k, (kept_strict_iff hh 'P' _ k).2 ⟨hk, hhigh⟩, rfl⟩)
    · exact .inr (.inr ⟨k, (kept_strict_iff hh 'T' _ k).2 ⟨hk, hlow⟩, rfl⟩)

end GrammarRules

namespace Grammar

variable (c : Collection) {r : GrammarRules} {l : Limits} {s : Sentence}

theorem judge_under (e e' : Enforcement) :
    (generated c (r.under e) l).judge s = (generated c (r.under e') l).judge s := rfl

variable (hr : r.levels ≤ levelLimit) (hh : r.levels ≤ r.heights.length)
include hr hh

theorem run_strict_eq_ok_iff (reading : Reading) :
    (generated c (r.under .strict) l).run s = .ok reading ↔
      (generated c (r.under .advisory) l).run s = .ok reading ∧
        ∀ w ∈ s.words, ¬r.TooHigh l w ∧ ¬r.TooLow l w := by
  rw [run_eq_ok_iff c l (r := r.under .strict) hr, run_eq_ok_iff c l (r := r.under .advisory) hr,
    judge_under c .strict .advisory]
  constructor
  · rintro ⟨hw, hall, rfl⟩
    have hparts := fun w hmem => (GrammarRules.spells_strict_iff hh w).1 (hall w hmem)
    exact ⟨⟨hw, fun w hmem => (hparts w hmem).1, rfl⟩, fun w hmem => (hparts w hmem).2⟩
  · rintro ⟨⟨hw, hall, rfl⟩, hfits⟩
    refine ⟨hw, fun w hmem => ?_, rfl⟩
    exact (GrammarRules.spells_strict_iff hh w).2 ⟨hall w hmem, hfits w hmem⟩

omit hh in
/-- What advisory rules read, they find too high or too low exactly if a word names such a
height. -/
theorem judge_advisory_iff (hsem : r.semantics = .vessel)
    (hall : ∀ w ∈ s.words, (r.under .advisory).Spells l w) :
    (generated c (r.under .advisory) l).judge s ≠ .peaksTooHigh ∧
        (generated c (r.under .advisory) l).judge s ≠ .troughsTooLow ↔
      ∀ w ∈ s.words, ¬r.TooHigh l w ∧ ¬r.TooLow l w := by
  have hhigh : (generated c (r.under .advisory) l).HasHighPeak s ↔
      ∃ w ∈ s.words, r.TooHigh l w :=
    generated_hasHighPeak_iff c (r := r.under .advisory) hr hall
  have hlow : (generated c (r.under .advisory) l).HasLowTrough s ↔
      ∃ w ∈ s.words, r.TooLow l w :=
    generated_hasLowTrough_iff c (r := r.under .advisory) hr hall
  rw [judge_ne_height_iff s hsem, hhigh, hlow]
  simp only [not_exists, not_and, forall_and]

/-- Where only advisory rules read a sentence, strict ones stop at the first word that names a
height above its limit. -/
theorem run_strict_eq_error {reading : Reading}
    (hlenient : (generated c (r.under .advisory) l).run s = .ok reading)
    (hstrict : ¬∃ reading, (generated c (r.under .strict) l).run s = .ok reading) :
    ∃ i w, s.FirstRefused (fun w => ¬r.TooHigh l w ∧ ¬r.TooLow l w) i w ∧
      (generated c (r.under .strict) l).run s = .error (.mismatch (2 * i)
        (Descriptor.ofLevels ((r.under .strict).keptLevels l.peak)
          ((r.under .strict).keptLevels l.trough)) w) := by
  obtain ⟨hw, hall, -⟩ := (run_eq_ok_iff c l (r := r.under .advisory) hr s reading).1 hlenient
  rcases run_cases c l (r := r.under .strict) hr s with
    ⟨hnil, -⟩ | ⟨-, -, hrun⟩ | ⟨i, w, hfirst, hrun⟩
  · exact absurd hnil hw
  · exact absurd ⟨_, hrun⟩ hstrict
  · refine ⟨i, w, hfirst.congr fun v hv => ?_, hrun⟩
    rw [GrammarRules.spells_strict_iff hh v, and_iff_right (hall v hv)]

end Grammar

/-- For settings without a fault, strict rules read what advisory rules read, apart from sentences
with a level above its limit; what both read they read alike. Under the semantics of vessels these
sentences are the ones whose heights the advisory verdict names. -/
theorem strict_agrees_with_advisory (settings : Settings) (hs : settings.check = .ok ())
    (l : Limits) :
    ∃ lenient strict : Grammar,
      Grammar.generate settings.collection (settings.rules.under .advisory) l = .ok lenient ∧
      Grammar.generate settings.collection (settings.rules.under .strict) l = .ok strict ∧
      ∀ s : Sentence,
        ((∃ x, strict.run s = .ok x) ↔ (∃ x, lenient.run s = .ok x) ∧
          ∀ w ∈ s.words, ¬settings.rules.TooHigh l w ∧ ¬settings.rules.TooLow l w) ∧
        (settings.rules.semantics = .vessel →
          ((∃ x, strict.run s = .ok x) ↔ ∃ x, lenient.run s = .ok x ∧
            x.verdict ≠ .peaksTooHigh ∧ x.verdict ≠ .troughsTooLow)) ∧
        (∀ x y, strict.run s = .ok x → lenient.run s = .ok y → x = y) ∧
        (settings.rules.semantics = .vessel → ∀ x, strict.run s = .ok x →
          x.verdict ≠ .peaksTooHigh ∧ x.verdict ≠ .troughsTooLow) ∧
        ((∃ x, lenient.run s = .ok x) → (¬∃ x, strict.run s = .ok x) →
          ∃ i w, s.FirstRefused
              (fun w => ¬settings.rules.TooHigh l w ∧ ¬settings.rules.TooLow l w) i w ∧
            ∃ expected, strict.run s = .error (.mismatch (2 * i) expected w)) := by
  have hsound := (settings.check_eq_ok_iff).1 hs
  obtain ⟨r, hrules⟩ : ∃ r, r = settings.rules := ⟨_, rfl⟩
  have hr : r.levels ≤ levelLimit := hrules ▸ hsound.levels_le
  have hh : r.levels ≤ r.heights.length := hrules ▸ hsound.heights
  rw [← hrules]
  have hstrict := fun s => Grammar.run_strict_eq_ok_iff settings.collection (l := l) (s := s) hr hh
  have hvessel : r.semantics = .vessel → ∀ s x,
      (Grammar.generated settings.collection (r.under .advisory) l).run s = .ok x →
      (x.verdict ≠ .peaksTooHigh ∧ x.verdict ≠ .troughsTooLow ↔
        ∀ w ∈ s.words, ¬r.TooHigh l w ∧ ¬r.TooLow l w) := by
    intro hsem s x hx
    obtain ⟨-, hall, rfl⟩ :=
      (Grammar.run_eq_ok_iff settings.collection l (r := r.under .advisory) hr s x).1 hx
    exact Grammar.judge_advisory_iff settings.collection hr hsem hall
  refine ⟨_, _, Grammar.generate_eq_ok _ l (r := r.under .advisory) hr,
    Grammar.generate_eq_ok _ l (r := r.under .strict) hr, fun s => ⟨?_, ?_, ?_, ?_, ?_⟩⟩
  · simp only [hstrict, exists_and_right]
  · intro hsem
    simp only [hstrict]
    exact exists_congr fun x => and_congr_right fun hx => (hvessel hsem s x hx).symm
  · intro x y hx hy
    rw [((hstrict s x).1 hx).1] at hy
    exact Except.ok.inj hy
  · intro hsem x hx
    obtain ⟨hread, hfits⟩ := (hstrict s x).1 hx
    exact (hvessel hsem s x hread).2 hfits
  · rintro ⟨x, hx⟩ hnone
    obtain ⟨i, w, hfirst, hrun⟩ := Grammar.run_strict_eq_error settings.collection hr hh hx hnone
    exact ⟨i, w, hfirst, _, hrun⟩

/-- The preset with three levels, for a vessel that takes peaks up to level two. -/
theorem beta_strict_agrees_with_advisory :
    (Settings.preset .beta).check = .ok () ∧ ∃ lenient strict : Grammar,
      Grammar.generate .beta ⟨3, .vessel, .advisory, [3.5, 7.5, 15.0]⟩ ⟨8.0, 4.0, .unlimited⟩ =
        .ok lenient ∧
      Grammar.generate .beta ⟨3, .vessel, .strict, [3.5, 7.5, 15.0]⟩ ⟨8.0, 4.0, .unlimited⟩ =
        .ok strict ∧
      ¬∃ x, strict.run ⟨"F P3"⟩ = .ok x := by
  have hs := Settings.check_preset .beta
  obtain ⟨lenient, strict, hlenient, hstrict, hagree⟩ :=
    strict_agrees_with_advisory (Settings.preset .beta) hs ⟨8.0, 4.0, .unlimited⟩
  refine ⟨hs, lenient, strict, hlenient, hstrict, fun hread => ?_⟩
  have hfits := ((hagree ⟨"F P3"⟩).1.1 hread).2 "P3" (by decide)
  exact hfits.1 ⟨3, 15.0, rfl, rfl, by decide⟩

end Swell

import Swell.Proofs.Grammar.Chop
import Swell.Proofs.Scalar.Order

/-!
# How severe a verdict is

Verdicts are ranked by what they warn of. Main statements: a verdict is at least as severe as
another one if it has every reason for a warning that the other one has; so looser limits make no
verdict more severe, and words around those of a sentence make none milder.
-/
namespace Swell

/-- The rank of a verdict, from nothing to warn of up to the highest waves. -/
def Verdict.severity : Verdict → Nat
  | .correct => 0
  | .tooMuchChop => 1
  | .troughsTooLow => 2
  | .peaksTooHigh => 3

/-- The second limit on chop is at least as loose as the first: there is none, or it tolerates no
fewer high waves within no wider a window. -/
def Chop.LoosensTo (c d : Chop) : Prop :=
  d.isUnlimited = true ∨
    c.isUnlimited = false ∧ d.isUnlimited = false ∧
      c.tolerated ≤ d.tolerated ∧ d.window ≤ c.window

/-- The second limits are at least as loose as the first. -/
structure Limits.LoosensTo (l l' : Limits) : Prop where
  peak : l.peak ≤ l'.peak
  trough : l.trough ≤ l'.trough
  chop : l.chop.LoosensTo l'.chop

namespace Chop.FoundIn

variable {c d : Chop} {levels levels' : List Level}

theorem of_loosensTo (hfound : d.FoundIn levels) (h : c.LoosensTo d) : c.FoundIn levels := by
  obtain ⟨htolerated, hwindow, run, hrun, hlength, hmany⟩ := hfound
  rcases h with hoff | ⟨hon, -, hfew, hwide⟩
  · rw [d.isUnlimited_iff.2 ⟨htolerated, hwindow⟩] at hoff
    cases hoff
  · obtain ⟨htolerated', hwindow'⟩ := c.isUnlimited_iff.1 hon
    exact ⟨htolerated', hwindow', run, hrun, by omega, by omega⟩

theorem of_infix (hfound : c.FoundIn levels) (h : levels <:+: levels') : c.FoundIn levels' := by
  obtain ⟨htolerated, hwindow, run, hrun, hlength, hmany⟩ := hfound
  exact ⟨htolerated, hwindow, run, hrun.trans h, hlength, hmany⟩

end Chop.FoundIn

namespace GrammarRules

variable {r : GrammarRules} {l l' : Limits}

theorem SomeAbove.of_le {limit limit' : Float} (h : limit ≤ limit') {side : Level → Prop}
    {levels : List Level} (ha : r.SomeAbove limit' side levels) :
    r.SomeAbove limit side levels := by
  obtain ⟨level, hlevel, hside, height, hheight, habove⟩ := ha
  exact ⟨level, hlevel, hside, height, hheight, Scalar.lt_of_le_of_lt h habove⟩

theorem SomeAbove.of_subset {limit : Float} {side : Level → Prop} {levels levels' : List Level}
    (h : levels ⊆ levels') (ha : r.SomeAbove limit side levels) :
    r.SomeAbove limit side levels' := by
  obtain ⟨level, hlevel, habove⟩ := ha
  exact ⟨level, h hlevel, habove⟩

theorem Kept.of_le {limit limit' : Float} (h : limit ≤ limit') {k : Nat} (hk : r.Kept limit k) :
    r.Kept limit' k := by
  obtain ⟨hone, hle, hfits⟩ := hk
  refine ⟨hone, hle, ?_⟩
  rintro ⟨hstrict, habove⟩
  exact hfits ⟨hstrict, Scalar.lt_of_le_of_lt h habove⟩

theorem Spells.of_loosensTo (h : l.LoosensTo l') {w : String} (hw : r.Spells l w) :
    r.Spells l' w := by
  rcases hw with rfl | ⟨k, hk, rfl⟩ | ⟨k, hk, rfl⟩
  · exact .inl rfl
  · exact .inr (.inl ⟨k, hk.of_le h.peak, rfl⟩)
  · exact .inr (.inr ⟨k, hk.of_le h.trough, rfl⟩)

end GrammarRules

namespace Grammar

section Reasons

variable {g g' : Grammar} {s t : Sentence}

theorem severity_of_shape (hg : g.rules.semantics = .shape) (s : Sentence) :
    (g.judge s).severity = 0 := by
  rw [judge, if_pos hg]
  rfl

/-- Each reason for a warning makes the verdict at least as severe as the warning. -/
theorem le_severity_judge (hg : g.rules.semantics = .vessel) (s : Sentence) :
    (g.HasHighPeak s → 3 ≤ (g.judge s).severity) ∧
      (g.HasLowTrough s → 2 ≤ (g.judge s).severity) ∧
      (g.limits.chop.FoundIn (levelsOf s) → 1 ≤ (g.judge s).severity) := by
  rcases judge_cases s hg with ⟨-, hj⟩ | ⟨hhigh, -, hj⟩ | ⟨hhigh, hlow, -, hj⟩ |
    ⟨hhigh, hlow, hchop, hj⟩
  · simp [hj, Verdict.severity]
  · simp [hj, Verdict.severity, hhigh]
  · simp [hj, Verdict.severity, hhigh, hlow]
  · simp [hj, Verdict.severity, hhigh, hlow, hchop]

/-- A verdict is no more severe than another one that has all its reasons. -/
theorem severity_judge_le (hsem : g.rules.semantics = g'.rules.semantics)
    (hhigh : g.HasHighPeak s → g'.HasHighPeak t) (hlow : g.HasLowTrough s → g'.HasLowTrough t)
    (hchop : g.limits.chop.FoundIn (levelsOf s) → g'.limits.chop.FoundIn (levelsOf t)) :
    (g.judge s).severity ≤ (g'.judge t).severity := by
  cases hg : g.rules.semantics with
  | shape =>
    rw [severity_of_shape hg]
    exact Nat.zero_le _
  | vessel =>
    obtain ⟨hpeaks, htroughs, hwaves⟩ := le_severity_judge (hsem ▸ hg) t
    rcases judge_cases s hg with ⟨h, hj⟩ | ⟨-, h, hj⟩ | ⟨-, -, h, hj⟩ | ⟨-, -, -, hj⟩
    · rw [hj]
      exact hpeaks (hhigh h)
    · rw [hj]
      exact htroughs (hlow h)
    · rw [hj]
      exact hwaves (hchop h)
    · rw [hj]
      exact Nat.zero_le _

end Reasons

variable (c : Collection) {r : GrammarRules} {l l' : Limits}

theorem severity_judge_le_of_loosensTo (h : l.LoosensTo l') (s : Sentence) :
    ((generated c r l').judge s).severity ≤ ((generated c r l).judge s).severity := by
  refine severity_judge_le rfl (fun hhigh => ?_) (fun hlow => ?_) (fun hchop => ?_)
  · rw [hasHighPeak_iff] at hhigh ⊢
    exact hhigh.of_le h.peak
  · rw [hasLowTrough_iff] at hlow ⊢
    exact hlow.of_le h.trough
  · exact hchop.of_loosensTo h.chop

theorem severity_judge_le_of_infix {s t : Sentence} (g : Grammar) (h : s.words <:+: t.words) :
    (g.judge s).severity ≤ (g.judge t).severity := by
  have hlevels : levelsOf s <:+: levelsOf t := h.filterMap _
  refine severity_judge_le rfl (fun hhigh => ?_) (fun hlow => ?_) (fun hchop => ?_)
  · rw [hasHighPeak_iff] at hhigh ⊢
    exact hhigh.of_subset hlevels.subset
  · rw [hasLowTrough_iff] at hlow ⊢
    exact hlow.of_subset hlevels.subset
  · exact hchop.of_infix hlevels

variable (hr : r.levels ≤ levelLimit)
include hr

theorem exists_run_of_loosensTo (h : l.LoosensTo l') {s : Sentence} {reading : Reading}
    (hrun : (generated c r l).run s = .ok reading) :
    (generated c r l').run s = .ok ⟨reading.history, (generated c r l').judge s⟩ := by
  obtain ⟨hw, hall, rfl⟩ := (run_eq_ok_iff c l hr s reading).1 hrun
  exact (run_eq_ok_iff c l' hr s _).2 ⟨hw, fun w hmem => (hall w hmem).of_loosensTo h, rfl⟩

theorem exists_run_of_parts {parts : List Sentence} (hne : parts ≠ [])
    (hparts : ∀ p ∈ parts, ∃ reading, (generated c r l).run p = .ok reading) {t : Sentence}
    (ht : t.words = parts.flatMap Sentence.words) :
    (generated c r l).run t = .ok ⟨.whole t, (generated c r l).judge t⟩ := by
  have hspelled : ∀ p ∈ parts, p.words ≠ [] ∧ ∀ w ∈ p.words, r.Spells l w := by
    intro p hp
    obtain ⟨reading, hreading⟩ := hparts p hp
    obtain ⟨hw, hall, -⟩ := (run_eq_ok_iff c l hr p reading).1 hreading
    exact ⟨hw, hall⟩
  refine (run_eq_ok_iff c l hr t _).2 ⟨?_, ?_, rfl⟩
  · obtain ⟨p, hp⟩ := List.exists_mem_of_ne_nil parts hne
    rw [ht, Ne, List.flatMap_eq_nil_iff]
    exact fun hnil => (hspelled p hp).1 (hnil p hp)
  · intro w hmem
    rw [ht] at hmem
    obtain ⟨p, hp, hw⟩ := List.mem_flatMap.1 hmem
    exact (hspelled p hp).2 w hw

end Grammar

/-- For settings without a fault, whatever their enforcement and semantics: looser limits make no
verdict more severe, and what is read under the tighter limits is read under the looser ones. A
sentence with the words of several sentences that are read, in order, is read, and its verdict is
no milder than that of any of them. -/
theorem verdicts_are_monotone (settings : Settings) (hs : settings.check = .ok ()) :
    (∀ l l' : Limits, l.LoosensTo l' → ∃ g g' : Grammar,
      Grammar.generate settings.collection settings.rules l = .ok g ∧
      Grammar.generate settings.collection settings.rules l' = .ok g' ∧
      ∀ s : Sentence, (g'.judge s).severity ≤ (g.judge s).severity ∧
        ∀ reading, g.run s = .ok reading → ∃ reading', g'.run s = .ok reading' ∧
          reading'.verdict.severity ≤ reading.verdict.severity) ∧
    ∀ l : Limits, ∃ g : Grammar,
      Grammar.generate settings.collection settings.rules l = .ok g ∧
      ∀ (before behind : List Sentence) (s t : Sentence) (reading : Reading),
        (∀ p ∈ before ++ behind, ∃ reading, g.run p = .ok reading) → g.run s = .ok reading →
        t.words = before.flatMap Sentence.words ++ s.words ++ behind.flatMap Sentence.words →
        ∃ reading', g.run t = .ok reading' ∧
          reading.verdict.severity ≤ reading'.verdict.severity := by
  have hr := (settings.check_eq_ok_iff.1 hs).levels_le
  constructor
  · intro l l' h
    refine ⟨_, _, Grammar.generate_eq_ok _ l hr, Grammar.generate_eq_ok _ l' hr, fun s => ?_⟩
    have hle := Grammar.severity_judge_le_of_loosensTo settings.collection (r := settings.rules) h s
    refine ⟨hle, fun reading hrun => ⟨_, Grammar.exists_run_of_loosensTo _ hr h hrun, ?_⟩⟩
    obtain ⟨-, -, rfl⟩ := (Grammar.run_eq_ok_iff _ l hr s reading).1 hrun
    exact hle
  · intro l
    refine ⟨_, Grammar.generate_eq_ok _ l hr, fun before behind s t reading hparts hrun ht => ?_⟩
    have hall : ∀ p ∈ before ++ s :: behind, ∃ reading,
        (Grammar.generated settings.collection settings.rules l).run p = .ok reading := by
      intro p hp
      rcases List.mem_append.1 hp with hp | hp
      · exact hparts p (List.mem_append_left _ hp)
      · rcases List.mem_cons.1 hp with rfl | hp
        · exact ⟨reading, hrun⟩
        · exact hparts p (List.mem_append_right _ hp)
    refine ⟨_, Grammar.exists_run_of_parts _ hr (by simp) hall ?_, ?_⟩
    · rw [ht, List.flatMap_append, List.flatMap_cons, List.append_assoc]
    · obtain ⟨-, -, rfl⟩ := (Grammar.run_eq_ok_iff _ l hr s reading).1 hrun
      exact Grammar.severity_judge_le_of_infix _ ⟨_, _, ht.symm⟩

/-- Limits that are lifted for a sentence of high peaks, and a peak that is too high between words
that are not. -/
theorem beta_verdicts_are_monotone :
    (Settings.preset .beta).check = .ok () ∧
      (∃ g g' : Grammar,
        Grammar.generate .beta (Settings.preset .beta).rules ⟨4.0, 4.0, ⟨2, 3⟩⟩ = .ok g ∧
        Grammar.generate .beta (Settings.preset .beta).rules ⟨8.0, 4.0, .unlimited⟩ = .ok g' ∧
        (g'.judge ⟨"P2 P2 P2"⟩).severity ≤ (g.judge ⟨"P2 P2 P2"⟩).severity) ∧
      ∃ g reading,
        Grammar.generate .beta (Settings.preset .beta).rules ⟨4.0, 4.0, ⟨2, 3⟩⟩ = .ok g ∧
        g.run ⟨"F P2 T1"⟩ = .ok reading ∧ 3 ≤ reading.verdict.severity := by
  have hs := Settings.check_preset .beta
  have hr : (Settings.preset .beta).rules.levels ≤ levelLimit := by decide
  obtain ⟨hloose, hjoin⟩ := verdicts_are_monotone (Settings.preset .beta) hs
  obtain ⟨l, hl⟩ : ∃ l : Limits, l = ⟨4.0, 4.0, ⟨2, 3⟩⟩ := ⟨_, rfl⟩
  have hkept : ∀ (limit : Float) (k : Nat), 1 ≤ k → k ≤ 3 →
      (Settings.preset .beta).rules.Kept limit k :=
    fun limit k hone hk => ⟨hone, hk, by simp [Settings.preset]⟩
  have hread : ∀ w : String, Sentence.words ⟨w⟩ = [w] → (Settings.preset .beta).rules.Spells l w →
      ∃ reading, (Grammar.generated .beta (Settings.preset .beta).rules l).run ⟨w⟩ =
        .ok reading := by
    intro w hw hspells
    refine ⟨_, (Grammar.run_eq_ok_iff .beta l hr _ _).2 ⟨by simp [hw], ?_, rfl⟩⟩
    simpa [hw] using hspells
  refine ⟨hs, ?_, ?_⟩
  · obtain ⟨g, g', hg, hg', hle⟩ := hloose l ⟨8.0, 4.0, .unlimited⟩
      ⟨by rw [hl]; decide, by rw [hl]; decide, .inl rfl⟩
    exact ⟨g, g', hl ▸ hg, hg', (hle ⟨"P2 P2 P2"⟩).1⟩
  · obtain ⟨g, hg, hreads⟩ := hjoin l
    obtain rfl : Grammar.generated .beta (Settings.preset .beta).rules l = g :=
      Except.ok.inj ((Grammar.generate_eq_ok .beta l hr).symm.trans hg)
    have hflat := hread "F" (by decide) (.inl rfl)
    have htrough := hread "T1" (by decide) (.inr (.inr ⟨1, hkept _ 1 (by decide) (by decide), rfl⟩))
    obtain ⟨high, hhigh⟩ :=
      hread "P2" (by decide) (.inr (.inl ⟨2, hkept _ 2 (by decide) (by decide), rfl⟩))
    have hverdict : high.verdict = .peaksTooHigh := by
      obtain ⟨-, -, rfl⟩ := (Grammar.run_eq_ok_iff .beta l hr _ _).1 hhigh
      rw [Grammar.judge_eq_peaksTooHigh_iff _ rfl]
      exact ⟨2, by decide, by decide, by rw [hl]; decide⟩
    obtain ⟨reading, hreading, hle⟩ := hreads [⟨"F"⟩] [⟨"T1"⟩] ⟨"P2"⟩ ⟨"F P2 T1"⟩ high
      (by simp [hflat, htrough]) hhigh (by decide)
    rw [hverdict] at hle
    exact ⟨_, reading, hl ▸ hg, hl ▸ hreading, hle⟩

end Swell

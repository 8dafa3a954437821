import Swell.Proofs.Grammar.Chop

/-!
# Limits with the motor on and off

The limits of a vessel under sail have a window, however short or long the vessel is, and those of
one with the motor on have none. Main statement: with the motor on chop is never said of a sentence;
with the motor off, and no height above its limit, it is said exactly if too many high waves stand
in a run of words no longer than the window.
-/
namespace Swell

/-- The whole number is nearest to the magnitude of a number; a half goes up. -/
def Decimal.IsNearestWhole (n : Nat) (x : Float) : Prop :=
  2 * (n * (Binary.ofFloat x).quotient.2) ≤
      2 * (Binary.ofFloat x).quotient.1 + (Binary.ofFloat x).quotient.2 ∧
    2 * (Binary.ofFloat x).quotient.1 <
      2 * (n * (Binary.ofFloat x).quotient.2) + (Binary.ofFloat x).quotient.2

theorem Decimal.isNearestWhole_nearestWhole (x : Float) :
    IsNearestWhole (nearestWhole x) x :=
  nearest_within_half _ _ (Nat.pow_pos Nat.two_pos)

namespace Vessel

variable {v : Vessel} {l : Limits}

theorem chop_of_limits (hl : v.limits = .ok l) :
    l.chop = if v.motor then .unlimited else ⟨toleratedWaves, v.window⟩ := by
  unfold limits at hl
  split at hl
  · cases hl
  · split at hl
    · cases hl
    · cases hl
      rfl

theorem window_eq (v : Vessel) :
    v.window = min (Decimal.nearestWhole (5.0 * v.length) : Int) widestWindow := by
  rw [window, Int.ofNat_eq_natCast]
  omega

end Vessel

namespace Grammar

def namingWords (s : Sentence) : List String :=
  s.words.filter fun w => (Level.ofSymbol? w).isSome

/-- The word names a level that counts as a high wave. -/
def namesHigh (w : String) : Bool :=
  (Level.ofSymbol? w).any fun level => highLevel ≤ level

/-- Three high waves stand in a run of words that is no longer than the window. -/
def HasChop (window : Int) (words : List String) : Prop :=
  ∃ run, run <:+: words ∧ (run.length : Int) ≤ max window 1 ∧ 3 ≤ run.countP namesHigh

theorem levelsOf_eq_map (s : Sentence) :
    levelsOf s = (namingWords s).map fun w => (Level.ofSymbol? w).getD 0 := by
  rw [levelsOf, namingWords]
  induction s.words with
  | nil => rfl
  | cons w ws ih =>
    cases h : Level.ofSymbol? w with
    | none => simp [h, ih]
    | some level => simp [h, ih]

/-- Runs of levels are runs of the words that name them. -/
theorem foundIn_levelsOf_iff {c : Chop} (htolerated : c.tolerated = 2) (hwindow : 0 ≤ c.window)
    (s : Sentence) : c.FoundIn (levelsOf s) ↔ HasChop c.window (namingWords s) := by
  have hcount : ∀ run, run <:+: namingWords s →
      (run.map fun w => (Level.ofSymbol? w).getD 0).countP (fun level => highLevel ≤ level) =
        run.countP namesHigh := by
    intro run hrun
    rw [List.countP_map]
    refine List.countP_congr fun w hw => ?_
    obtain ⟨level, hlevel⟩ := Option.isSome_iff_exists.1
      (List.mem_filter.1 (hrun.subset hw)).2
    simp [namesHigh, hlevel]
  rw [Chop.FoundIn, htolerated, levelsOf_eq_map, and_iff_right (by decide), and_iff_right hwindow]
  constructor
  · rintro ⟨run, hrun, hlength, hmany⟩
    obtain ⟨part, hpart, rfl⟩ := List.infix_map_iff.1 hrun
    rw [List.length_map] at hlength
    rw [hcount part hpart] at hmany
    exact ⟨part, hpart, hlength, Int.ofNat_lt.1 hmany⟩
  · rintro ⟨part, hpart, hlength, hmany⟩
    refine ⟨_, List.infix_map_iff.2 ⟨part, hpart, rfl⟩, ?_, ?_⟩
    · rwa [List.length_map]
    · rw [hcount part hpart]
      exact Int.ofNat_lt.2 hmany

variable {c : Collection} {r : GrammarRules} {l : Limits} {g : Grammar} {s : Sentence}
  {reading : Reading}

theorem rules_limits_of_generate (hg : generate c r l = .ok g) : g.rules = r ∧ g.limits = l := by
  obtain ⟨ts, -, hts⟩ := bind_eq_ok_iff.1 hg
  cases hts
  exact ⟨rfl, rfl⟩

theorem verdict_of_run (hrun : g.run s = .ok reading) : reading.verdict = g.judge s := by
  rw [run] at hrun
  cases hdrive : Recogniser.drive g.any s with
  | error f =>
    rw [hdrive] at hrun
    cases hrun
  | ok history =>
    rw [hdrive] at hrun
    cases hrun
    rfl

theorem namingWords_eq_words (hr : r.levels ≤ levelLimit) (hg : generate c r l = .ok g)
    (hrun : g.run s = .ok reading) : namingWords s = s.words := by
  obtain rfl : generated c r l = g := Except.ok.inj ((generate_eq_ok c l hr).symm.trans hg)
  obtain ⟨-, hall, -⟩ := (run_eq_ok_iff c l hr s reading).1 hrun
  refine List.filter_eq_self.2 fun w hw => ?_
  obtain ⟨level, hlevel, -⟩ := (hall w hw).exists_symbol hr
  rw [hlevel]
  rfl

end Grammar

/-- The limits of a vessel lift the limit of chop exactly with the motor on. With the motor off, two
high waves are tolerated within a window of five times the length, to the nearest whole number that
is representable. So a grammar for these limits never says chop with the motor on; with the motor
off, and where no height is above its limit, it says chop exactly if some run of words that name
levels is no longer than the window and has three high waves. With at most nine levels, all words
that it reads name levels. -/
theorem motor_alone_lifts_chop_limit {v : Vessel} {l : Limits} (hl : v.limits = .ok l) :
    (l.chop.isUnlimited = true ↔ v.motor = true) ∧
    (v.motor = false → l.chop.tolerated = 2 ∧ 0 ≤ l.chop.window ∧
      l.chop.window ≤ 9223372036854775807 ∧
      ∃ n : Nat, Decimal.IsNearestWhole n (5.0 * v.length) ∧
        l.chop.window = min (n : Int) 9223372036854775807) ∧
    ∀ c r g s reading, r.semantics = .vessel → Grammar.generate c r l = .ok g →
      g.run s = .ok reading →
      (v.motor = true → reading.verdict ≠ .tooMuchChop) ∧
      (v.motor = false → ¬r.SomeAbove l.peak (0 < ·) (Grammar.levelsOf s) →
        ¬r.SomeAbove l.trough (· < 0) (Grammar.levelsOf s) →
        (reading.verdict = .tooMuchChop ↔
          Grammar.HasChop l.chop.window (Grammar.namingWords s))) ∧
      (r.levels ≤ levelLimit → Grammar.namingWords s = s.words) := by
  have hchop := Vessel.chop_of_limits hl
  have hverdict : ∀ c r g s reading, r.semantics = .vessel → Grammar.generate c r l = .ok g →
      g.run s = .ok reading → (reading.verdict = .tooMuchChop ↔
        ¬r.SomeAbove l.peak (0 < ·) (Grammar.levelsOf s) ∧
        ¬r.SomeAbove l.trough (· < 0) (Grammar.levelsOf s) ∧
        l.chop.FoundIn (Grammar.levelsOf s)) := by
    intro c r g s reading hsem hg hrun
    obtain ⟨rfl, rfl⟩ := Grammar.rules_limits_of_generate hg
    rw [Grammar.verdict_of_run hrun, Grammar.judge_eq_tooMuchChop_iff s hsem,
      Grammar.hasHighPeak_iff, Grammar.hasLowTrough_iff]
  cases hm : v.motor with
  | true =>
    rw [hm, if_pos rfl] at hchop
    refine ⟨by simp [hchop, Chop.isUnlimited, Chop.unlimited], by simp,
      fun c r g s reading hsem hg hrun => ⟨fun _ hsaid => ?_, by simp,
        fun hr => Grammar.namingWords_eq_words hr hg hrun⟩⟩
    obtain ⟨-, -, htolerated, -⟩ := (hverdict c r g s reading hsem hg hrun).1 hsaid
    rw [hchop] at htolerated
    exact absurd htolerated (by decide)
  | false =>
    rw [hm, if_neg Bool.false_ne_true] at hchop
    have htolerated : l.chop.tolerated = 2 := by rw [hchop]; rfl
    have hwindow : 0 ≤ l.chop.window := by
      rw [hchop]
      exact v.window_nonneg
    have hfinite : l.chop.isUnlimited = false := by
      rw [Chop.isUnlimited_iff, htolerated]
      exact ⟨by decide, hwindow⟩
    have hwidth : l.chop.window =
        min (Decimal.nearestWhole (5.0 * v.length) : Int) 9223372036854775807 := by
      rw [hchop]
      exact v.window_eq
    refine ⟨by simp [hfinite], fun _ => ⟨htolerated, hwindow, hwidth ▸ Int.min_le_right _ _, _,
      Decimal.isNearestWhole_nearestWhole _, hwidth⟩,
      fun c r g s reading hsem hg hrun => ⟨by simp, fun _ hhigh hlow => ?_,
        fun hr => Grammar.namingWords_eq_words hr hg hrun⟩⟩
    rw [hverdict c r g s reading hsem hg hrun, and_iff_right hhigh, and_iff_right hlow,
      Grammar.foundIn_levelsOf_iff htolerated hwindow]

def dinghy : Vessel :=
  ⟨0.6, 8.0, false, true, 8.0⟩

theorem limits_dinghy : dinghy.limits = .ok ⟨8.0, 8.0, ⟨2, 3⟩⟩ := by
  have hwindow : dinghy.window = 3 := by decide +kernel
  rw [Vessel.limits, if_neg (by decide), if_neg (by decide), hwindow]
  rfl

/-- What is said of a sentence, if the grammar can be generated and reads it. -/
def Grammar.verdictOf? (c : Collection) (r : GrammarRules) (l : Limits) (s : Sentence) :
    Option Verdict := do
  let g ← (Grammar.generate c r l).toOption
  let reading ← (g.run s).toOption
  return reading.verdict

theorem Grammar.verdictOf?_eq_some {c : Collection} {r : GrammarRules} {l : Limits} {s : Sentence}
    {verdict : Verdict} (h : verdictOf? c r l s = some verdict) :
    ∃ g reading, generate c r l = .ok g ∧ g.run s = .ok reading ∧ reading.verdict = verdict := by
  unfold verdictOf? at h
  cases hg : generate c r l with
  | error f =>
    rw [hg] at h
    cases h
  | ok g =>
    rw [hg] at h
    change ((g.run s).toOption >>= fun reading => some reading.verdict) = some verdict at h
    cases hrun : g.run s with
    | error f =>
      rw [hrun] at h
      cases h
    | ok reading =>
      rw [hrun] at h
      exact ⟨g, reading, rfl, hrun, Option.some.inj h⟩

theorem second_level_fits_dinghy {r : GrammarRules} (hr : r.heights = [3.5, 7.5, 15.0]) :
    ¬r.SomeAbove 8.0 (0 < ·) [2, 2, 2] ∧ ¬r.SomeAbove 8.0 (· < 0) [2, 2, 2] := by
  constructor
  · rintro ⟨level, hlevel, -, height, hheight, habove⟩
    simp only [List.mem_cons, List.not_mem_nil, or_false, or_self] at hlevel
    subst hlevel
    change r.heights[1]? = some height at hheight
    rw [hr] at hheight
    obtain rfl : 7.5 = height := Option.some.inj hheight
    exact absurd habove (by decide)
  · rintro ⟨level, hlevel, hside, -⟩
    simp only [List.mem_cons, List.not_mem_nil, or_false, or_self] at hlevel
    subst hlevel
    exact absurd hside (by decide)

/-- Three high waves at once are too many for the boat, and this is said because they are. -/
theorem dinghy_meets_chop :
    dinghy.limits = .ok ⟨8.0, 8.0, ⟨2, 3⟩⟩ ∧ dinghy.motor = false ∧
      ∃ g reading, Grammar.generate .beta (Settings.preset .beta).rules ⟨8.0, 8.0, ⟨2, 3⟩⟩ = .ok g ∧
        g.run ⟨"P2 P2 P2"⟩ = .ok reading ∧ reading.verdict = .tooMuchChop := by
  refine ⟨limits_dinghy, rfl, ?_⟩
  obtain ⟨g, reading, hg, hrun, -⟩ := Grammar.verdictOf?_eq_some
    (show Grammar.verdictOf? .beta (Settings.preset .beta).rules ⟨8.0, 8.0, ⟨2, 3⟩⟩ ⟨"P2 P2 P2"⟩ =
      some .tooMuchChop by decide +kernel)
  have hlevels : Grammar.levelsOf ⟨"P2 P2 P2"⟩ = [2, 2, 2] := by decide
  have hfits := second_level_fits_dinghy (r := (Settings.preset .beta).rules) rfl
  rw [← hlevels] at hfits
  obtain ⟨-, -, hsaid⟩ := motor_alone_lifts_chop_limit limits_dinghy
  obtain ⟨-, hchop, -⟩ := hsaid _ _ _ _ _ rfl hg hrun
  exact ⟨g, reading, hg, hrun,
    (hchop rfl hfits.1 hfits.2).2 ⟨_, List.infix_rfl, by decide, by decide⟩⟩

/-- A grammar with ten levels reads the word of a peak of level zero, which names no level, and
passes over it when it looks for chop. -/
theorem word_without_level_is_passed_over :
    dinghy.limits = .ok ⟨8.0, 8.0, ⟨2, 3⟩⟩ ∧ dinghy.motor = false ∧
      ∃ r : GrammarRules, r = ⟨10, .vessel, .advisory, [3.5, 7.5, 15.0]⟩ ∧
        (∃ g reading, Grammar.generate .beta r ⟨8.0, 8.0, ⟨2, 3⟩⟩ = .ok g ∧
          g.run ⟨"P2 P0 P2 P2"⟩ = .ok reading ∧ reading.verdict = .tooMuchChop) ∧
        ¬r.SomeAbove 8.0 (0 < ·) (Grammar.levelsOf ⟨"P2 P0 P2 P2"⟩) ∧
        ¬r.SomeAbove 8.0 (· < 0) (Grammar.levelsOf ⟨"P2 P0 P2 P2"⟩) ∧
        ¬Grammar.HasChop 3 (Sentence.words ⟨"P2 P0 P2 P2"⟩) := by
  have hlevels : Grammar.levelsOf ⟨"P2 P0 P2 P2"⟩ = [2, 2, 2] := by decide
  have hwords : Sentence.words ⟨"P2 P0 P2 P2"⟩ = ["P2", "P0", "P2", "P2"] := by decide
  have hfew : ¬∃ i < 4 + 1 - min 3 4, 2 <
      ((["P2", "P0", "P2", "P2"].drop i).take (min 3 4)).countP Grammar.namesHigh := by
    decide
  refine ⟨limits_dinghy, rfl, _, rfl, Grammar.verdictOf?_eq_some (by decide +kernel), ?_⟩
  rw [hlevels, hwords]
  refine ⟨(second_level_fits_dinghy rfl).1, (second_level_fits_dinghy rfl).2, ?_⟩
  rintro ⟨run, hrun, hlength, hmany⟩
  exact hfew ((exists_window_iff_exists_run Grammar.namesHigh 2 3 ["P2", "P0", "P2", "P2"]).2
    ⟨run, hrun, by omega, hmany⟩)

end Swell

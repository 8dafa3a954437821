import Swell.Proofs.Grammar.Exactness
import Swell.Proofs.Grammar.Verdict
import Swell.Proofs.Sentence.Symbols
import Swell.Proofs.Settings.Check

/-!
# Chop and the specification of verdicts

Chop is looked for in the full windows of a sentence only. Main statements: every run that is no
longer than a window lies within a full one, so that no run with too many high waves is missed; and
what each verdict says of the levels that the words of a sentence stand for.
-/
namespace Swell

variable {α : Type}

theorem anyWindow_iff (p : List α → Bool) (width count : Nat) (xs : List α) :
    anyWindow p width count xs = true ↔ ∃ i < count, p ((xs.drop i).take width) = true := by
  induction count generalizing xs with
  | zero => simp [anyWindow]
  | succ count ih =>
    rw [anyWindow, Bool.or_eq_true, ih, Nat.exists_lt_succ_left, List.drop_zero]
    simp

/-- A run lies within a window that begins where the run does, or, near the end of the list, within
the last full window. -/
theorem exists_window_of_infix {run xs : List α} {width : Nat} (hrun : run <:+: xs)
    (hlength : run.length ≤ width) (hwidth : width ≤ xs.length) :
    ∃ i < xs.length + 1 - width, run.Sublist ((xs.drop i).take width) := by
  obtain ⟨before, after, rfl⟩ := hrun
  have htotal : (before ++ run ++ after).length = before.length + run.length + after.length := by
    rw [List.length_append, List.length_append]
  obtain ⟨i, hi⟩ : ∃ i, i = min before.length ((before ++ run ++ after).length - width) := ⟨_, rfl⟩
  have hcut : ((((before ++ run ++ after).drop i).take width).drop (before.length - i)).take
      run.length = run := by
    rw [List.drop_take, List.take_take, List.drop_drop, Nat.add_sub_cancel' (by omega),
      Nat.min_eq_left (by omega), List.append_assoc, List.drop_left, List.take_left]
  -- the window ends behind the run, as it begins before it by the rest of its width at most
  refine ⟨i, by omega, ?_⟩
  conv_lhs => rw [← hcut]
  exact (List.take_sublist _ _).trans (List.drop_sublist _ _)

/-- More members than a number satisfy a condition in a full window exactly if they do in some run
that is no longer. Full windows of a short list are the list itself. -/
theorem exists_window_iff_exists_run (q : α → Bool) (few width : Nat) (xs : List α) :
    (∃ i < xs.length + 1 - min width xs.length,
        few < ((xs.drop i).take (min width xs.length)).countP q) ↔
      ∃ run, run <:+: xs ∧ run.length ≤ width ∧ few < run.countP q := by
  constructor
  · rintro ⟨i, -, hmany⟩
    refine ⟨(xs.drop i).take (min width xs.length), ?_, ?_, hmany⟩
    · exact (List.take_prefix _ _).isInfix.trans (List.drop_suffix _ _).isInfix
    · rw [List.length_take]
      omega
  · rintro ⟨run, hrun, hlength, hmany⟩
    have hfits : run.length ≤ min width xs.length := Nat.le_min.2 ⟨hlength, hrun.length_le⟩
    obtain ⟨i, hi, hwithin⟩ := exists_window_of_infix hrun hfits (Nat.min_le_right _ _)
    exact ⟨i, hi, Nat.lt_of_lt_of_le hmany hwithin.countP_le⟩

namespace Chop

/-- The limit is in force, and some run of words within its window has more high waves than are
tolerated. The window has at least one word. -/
def FoundIn (c : Chop) (levels : List Level) : Prop :=
  0 ≤ c.tolerated ∧ 0 ≤ c.window ∧
    ∃ run, run <:+: levels ∧ (run.length : Int) ≤ max c.window 1 ∧
      c.tolerated < (run.countP fun l => highLevel ≤ l : Nat)

theorem isUnlimited_iff (c : Chop) :
    c.isUnlimited = false ↔ 0 ≤ c.tolerated ∧ 0 ≤ c.window := by
  simp [isUnlimited]

/-- Looking at full windows finds all chop and nothing else, whatever the window is. -/
theorem exceededBy_iff (c : Chop) (levels : List Level) :
    c.exceededBy levels = true ↔ c.FoundIn levels := by
  cases hu : c.isUnlimited with
  | true =>
    have hoff : ¬(0 ≤ c.tolerated ∧ 0 ≤ c.window) := by
      rw [← isUnlimited_iff, hu]
      simp
    simp only [exceededBy, hu, FoundIn, ← and_assoc]
    simp [hoff]
  | false =>
    have hon := c.isUnlimited_iff.1 hu
    have hrun : (∃ run, run <:+: levels ∧ run.length ≤ max c.window.toNat 1 ∧
        c.tolerated.toNat < run.countP fun l => highLevel ≤ l) ↔ c.FoundIn levels := by
      rw [FoundIn, and_iff_right hon.1, and_iff_right hon.2]
      refine exists_congr fun run => and_congr_right fun _ => and_congr ?_ ?_
      · omega
      · omega
    cases levels with
    | nil =>
      rw [← hrun]
      simp [exceededBy]
    | cons l levels =>
      rw [← hrun, ← exists_window_iff_exists_run]
      simp [exceededBy, hu, anyWindow_iff]

end Chop

namespace Level

theorem symbol_of_pos {l : Level} (h : 0 < l) : l.symbol = "P" ++ toString l.toInt.natAbs := by
  have hpos : 0 < l.toInt := Int8.lt_iff_toInt_lt.1 h
  rw [symbol, if_neg (by omega), if_pos hpos]

theorem symbol_of_neg {l : Level} (h : l < 0) : l.symbol = "T" ++ toString l.toInt.natAbs := by
  have hneg : l.toInt < 0 := Int8.lt_iff_toInt_lt.1 h
  rw [symbol, if_neg (by omega), if_neg (by omega)]

end Level

theorem GrammarRules.Spells.exists_symbol {r : GrammarRules} {l : Limits} {w : String}
    (hw : r.Spells l w) (hr : r.levels ≤ levelLimit) :
    ∃ level, Level.ofSymbol? w = some level ∧ level.symbol = w ∧
      level.toInt.natAbs ≤ r.levels := by
  rw [levelLimit] at hr
  rcases hw with rfl | ⟨k, ⟨hone, hle, -⟩, rfl⟩ | ⟨k, ⟨hone, hle, -⟩, rfl⟩
  · exact ⟨0, Level.ofSymbol?_flat, by decide, Nat.zero_le _⟩
  · obtain ⟨level, hread, hpos, rfl⟩ := Level.ofSymbol?_peak hone (by omega)
    exact ⟨level, hread, Level.symbol_of_pos hpos, hle⟩
  · obtain ⟨level, hread, hneg, rfl⟩ := Level.ofSymbol?_trough hone (by omega)
    exact ⟨level, hread, Level.symbol_of_neg hneg, hle⟩

namespace Grammar

variable {r : GrammarRules} {l : Limits} {s : Sentence}

theorem map_symbol_levelsOf (hr : r.levels ≤ levelLimit) (hall : ∀ w ∈ s.words, r.Spells l w) :
    (levelsOf s).map Level.symbol = s.words := by
  have hread : ∀ w ∈ s.words, (Level.ofSymbol? w).map Level.symbol = some w := by
    intro w hw
    obtain ⟨level, hlevel, hsymbol, -⟩ := (hall w hw).exists_symbol hr
    rw [hlevel, Option.map_some, hsymbol]
  rw [levelsOf, List.map_filterMap, List.filterMap_congr hread, List.filterMap_some]

theorem natAbs_le_of_mem_levelsOf (hr : r.levels ≤ levelLimit)
    (hall : ∀ w ∈ s.words, r.Spells l w) {level : Level} (hlevel : level ∈ levelsOf s) :
    level.toInt.natAbs ≤ r.levels := by
  obtain ⟨w, hw, hsymbol⟩ := List.mem_filterMap.1 hlevel
  obtain ⟨level', hread, -, hle⟩ := (hall w hw).exists_symbol hr
  obtain rfl : level = level' := Option.some.inj (hsymbol.symm.trans hread)
  exact hle

end Grammar

/-- Some level on one side of flat water has a height above a limit. -/
def GrammarRules.SomeAbove (r : GrammarRules) (limit : Float) (side : Level → Prop)
    (levels : List Level) : Prop :=
  ∃ level ∈ levels, side level ∧
    ∃ height, r.heightOf? level.toInt.natAbs = some height ∧ limit < height

namespace Grammar

variable {g : Grammar} (s : Sentence)

theorem hasHighPeak_iff (g : Grammar) :
    g.HasHighPeak s ↔ g.rules.SomeAbove g.limits.peak (0 < ·) (levelsOf s) := by
  simp only [HasHighPeak, GrammarRules.SomeAbove, GrammarRules.exceeds_iff]

theorem hasLowTrough_iff (g : Grammar) :
    g.HasLowTrough s ↔ g.rules.SomeAbove g.limits.trough (· < 0) (levelsOf s) := by
  simp only [HasLowTrough, GrammarRules.SomeAbove, GrammarRules.exceeds_iff]

theorem judge_cases (hg : g.rules.semantics = .vessel) :
    (g.HasHighPeak s ∧ g.judge s = .peaksTooHigh) ∨
    (¬g.HasHighPeak s ∧ g.HasLowTrough s ∧ g.judge s = .troughsTooLow) ∨
    (¬g.HasHighPeak s ∧ ¬g.HasLowTrough s ∧ g.limits.chop.FoundIn (levelsOf s) ∧
      g.judge s = .tooMuchChop) ∨
    (¬g.HasHighPeak s ∧ ¬g.HasLowTrough s ∧ ¬g.limits.chop.FoundIn (levelsOf s) ∧
      g.judge s = .correct) := by
  rcases judge_of_vessel s hg with hpeaks | htroughs | ⟨hhigh, hlow, hj⟩
  · exact .inl hpeaks
  · exact .inr (.inl htroughs)
  · by_cases hchop : g.limits.chop.FoundIn (levelsOf s)
    · rw [if_pos ((Chop.exceededBy_iff _ _).2 hchop)] at hj
      exact .inr (.inr (.inl ⟨hhigh, hlow, hchop, hj⟩))
    · rw [if_neg (mt (Chop.exceededBy_iff _ _).1 hchop)] at hj
      exact .inr (.inr (.inr ⟨hhigh, hlow, hchop, hj⟩))

theorem judge_eq_tooMuchChop_iff (hg : g.rules.semantics = .vessel) :
    g.judge s = .tooMuchChop ↔
      ¬g.HasHighPeak s ∧ ¬g.HasLowTrough s ∧ g.limits.chop.FoundIn (levelsOf s) := by
  rcases judge_cases s hg with ⟨hhigh, hj⟩ | ⟨-, hlow, hj⟩ | ⟨hhigh, hlow, hchop, hj⟩ |
    ⟨-, -, hchop, hj⟩
  · simp [hj, hhigh]
  · simp [hj, hlow]
  · simp [hj, hhigh, hlow, hchop]
  · simp [hj, hchop]

theorem judge_eq_correct_iff (hg : g.rules.semantics = .vessel) :
    g.judge s = .correct ↔
      ¬g.HasHighPeak s ∧ ¬g.HasLowTrough s ∧ ¬g.limits.chop.FoundIn (levelsOf s) := by
  rcases judge_cases s hg with ⟨hhigh, hj⟩ | ⟨-, hlow, hj⟩ | ⟨-, -, hchop, hj⟩ |
    ⟨hhigh, hlow, hchop, hj⟩
  · simp [hj, hhigh]
  · simp [hj, hlow]
  · simp [hj, hchop]
  · simp [hj, hhigh, hlow, hchop]

end Grammar

/-- For settings without a fault, judged by the semantics of vessels: the words of a sentence that
can be read are the symbols of its levels. The verdict names peaks if some peak is higher than the
limit; otherwise troughs if some trough is deeper than the limit; otherwise chop if some run of
words, no longer than the window, has more high waves than are tolerated. Every level but flat
water has a height. -/
theorem verdict_meets_specification (settings : Settings) (hs : settings.check = .ok ())
    (hsem : settings.rules.semantics = .vessel) (l : Limits) :
    ∃ g, Grammar.generate settings.collection settings.rules l = .ok g ∧
      ∀ s reading, g.run s = .ok reading → reading.verdict = g.judge s ∧
        ∃ levels, levels = Grammar.levelsOf s ∧ levels.map Level.symbol = s.words ∧
          (∀ level ∈ levels, level ≠ 0 →
            ∃ height, settings.rules.heightOf? level.toInt.natAbs = some height) ∧
          (g.judge s = .peaksTooHigh ↔ settings.rules.SomeAbove l.peak (0 < ·) levels) ∧
          (g.judge s = .troughsTooLow ↔ ¬settings.rules.SomeAbove l.peak (0 < ·) levels ∧
            settings.rules.SomeAbove l.trough (· < 0) levels) ∧
          (g.judge s = .tooMuchChop ↔ ¬settings.rules.SomeAbove l.peak (0 < ·) levels ∧
            ¬settings.rules.SomeAbove l.trough (· < 0) levels ∧ l.chop.FoundIn levels) ∧
          (g.judge s = .correct ↔ ¬settings.rules.SomeAbove l.peak (0 < ·) levels ∧
            ¬settings.rules.SomeAbove l.trough (· < 0) levels ∧ ¬l.chop.FoundIn levels) := by
  have hsound := settings.check_eq_ok_iff.1 hs
  have hr := hsound.levels_le
  refine ⟨_, Grammar.generate_eq_ok _ l hr, fun s reading hrun => ?_⟩
  obtain ⟨-, hall, rfl⟩ := (Grammar.run_eq_ok_iff _ l hr s reading).1 hrun
  have hwords := Grammar.map_symbol_levelsOf hr hall
  have hhigh := Grammar.hasHighPeak_iff s (.generated settings.collection settings.rules l)
  have hlow := Grammar.hasLowTrough_iff s (.generated settings.collection settings.rules l)
  refine ⟨rfl, _, rfl, hwords, ?_, ?_, ?_, ?_, ?_⟩
  · intro level hlevel hne
    have hone : 1 ≤ level.toInt.natAbs := by
      refine Nat.one_le_iff_ne_zero.2 fun hzero => hne ?_
      exact Int8.toInt_inj.1 (Int.natAbs_eq_zero.1 hzero)
    exact GrammarRules.exists_height hsound.heights hone
      (Grammar.natAbs_le_of_mem_levelsOf hr hall hlevel)
  · rw [Grammar.judge_eq_peaksTooHigh_iff s hsem, hhigh]
    rfl
  · rw [Grammar.judge_eq_troughsTooLow_iff s hsem, hhigh, hlow]
    rfl
  · rw [Grammar.judge_eq_tooMuchChop_iff s hsem, hhigh, hlow]
    rfl
  · rw [Grammar.judge_eq_correct_iff s hsem, hhigh, hlow]
    rfl

/-- The widest window there is, and a sentence of three words. -/
theorem beta_verdict_finds_chop_in_wide_window :
    (Settings.preset .beta).check = .ok () ∧
      (Settings.preset .beta).rules.semantics = .vessel ∧
      ∃ g reading, Grammar.generate .beta (Settings.preset .beta).rules
          ⟨8.0, 8.0, ⟨2, 9223372036854775807⟩⟩ = .ok g ∧
        g.run ⟨"P2 P2 P2"⟩ = .ok reading ∧ reading.verdict = .tooMuchChop := by
  have hs := Settings.check_preset .beta
  obtain ⟨l, hl⟩ : ∃ l : Limits, l = ⟨8.0, 8.0, ⟨2, 9223372036854775807⟩⟩ := ⟨_, rfl⟩
  obtain ⟨g, hg, hverdict⟩ := verdict_meets_specification (Settings.preset .beta) hs rfl l
  have hlevels : Grammar.levelsOf ⟨"P2 P2 P2"⟩ = [2, 2, 2] := by decide
  have hspelled : ∀ w ∈ Sentence.words ⟨"P2 P2 P2"⟩, (Settings.preset .beta).rules.Spells l w := by
    have hwords : Sentence.words ⟨"P2 P2 P2"⟩ = ["P2", "P2", "P2"] := by decide
    rw [hwords]
    simp only [List.forall_mem_cons]
    have hword : (Settings.preset .beta).rules.Spells l "P2" :=
      .inr (.inl ⟨2, ⟨by decide, by decide, by simp [Settings.preset]⟩, rfl⟩)
    exact ⟨hword, hword, hword, by simp⟩
  have hr : (Settings.preset .beta).rules.levels ≤ levelLimit := by decide
  obtain rfl : Grammar.generated .beta (Settings.preset .beta).rules l = g :=
    Except.ok.inj ((Grammar.generate_eq_ok .beta l hr).symm.trans hg)
  obtain ⟨reading, hrun⟩ : ∃ reading, (Grammar.generated .beta (Settings.preset .beta).rules l).run
      ⟨"P2 P2 P2"⟩ = .ok reading :=
    ⟨_, (Grammar.run_eq_ok_iff .beta l hr _ _).2 ⟨by decide, hspelled, rfl⟩⟩
  obtain ⟨hreading, levels, rfl, -, -, -, -, hchop, -⟩ := hverdict _ reading hrun
  refine ⟨hs, rfl, _, reading, hl ▸ hg, hl ▸ hrun, hreading.trans (hchop.2 ?_)⟩
  rw [hlevels, hl]
  refine ⟨?_, ?_, by decide, by decide, [2, 2, 2], List.infix_rfl, by decide, by decide⟩
  · rintro ⟨level, hlevel, -, height, hheight, habove⟩
    simp only [List.mem_cons, List.not_mem_nil, or_false, or_self] at hlevel
    subst hlevel
    obtain rfl : 7.5 = height := Option.some.inj hheight
    exact absurd habove (by decide)
  · rintro ⟨level, hlevel, hside, -⟩
    simp only [List.mem_cons, List.not_mem_nil, or_false, or_self] at hlevel
    subst hlevel
    exact absurd hside (by decide)

end Swell

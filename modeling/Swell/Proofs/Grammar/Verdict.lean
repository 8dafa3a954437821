import Swell.Proofs.Grammar.Tokens

/-!
# What a verdict says

Main statements: under the semantics of vessels, a verdict on heights says that some level of the
sentence exceeds a limit, peaks before troughs; and where the words spell levels of the grammar,
these levels are those of the words that name a height above the limit.
-/
namespace Swell

namespace Grammar

variable {g : Grammar} (s : Sentence)

/-- Some peak of the sentence is higher than the limit for peaks. -/
def HasHighPeak (g : Grammar) (s : Sentence) : Prop :=
  ∃ l ∈ levelsOf s, 0 < l ∧ g.rules.exceeds g.limits.peak l = true

def HasLowTrough (g : Grammar) (s : Sentence) : Prop :=
  ∃ l ∈ levelsOf s, l < 0 ∧ g.rules.exceeds g.limits.trough l = true

/-- What is said under the semantics of vessels, in the order in which it is considered. -/
theorem judge_of_vessel (hg : g.rules.semantics = .vessel) :
    (g.HasHighPeak s ∧ g.judge s = .peaksTooHigh) ∨
    (¬g.HasHighPeak s ∧ g.HasLowTrough s ∧ g.judge s = .troughsTooLow) ∨
    (¬g.HasHighPeak s ∧ ¬g.HasLowTrough s ∧
      g.judge s = if g.limits.chop.exceededBy (levelsOf s) then .tooMuchChop else .correct) := by
  have hpeak : ((levelsOf s).any fun l => 0 < l && g.rules.exceeds g.limits.peak l) = true ↔
      g.HasHighPeak s := by
    simp [HasHighPeak]
  have htrough : ((levelsOf s).any fun l => l < 0 && g.rules.exceeds g.limits.trough l) = true ↔
      g.HasLowTrough s := by
    simp [HasLowTrough]
  have hshape : ¬g.rules.semantics = .shape := by
    rw [hg]
    decide
  rw [judge, if_neg hshape]
  by_cases hhigh : g.HasHighPeak s
  · exact .inl ⟨hhigh, if_pos (hpeak.2 hhigh)⟩
  · rw [if_neg (mt hpeak.1 hhigh)]
    by_cases hlow : g.HasLowTrough s
    · exact .inr (.inl ⟨hhigh, hlow, if_pos (htrough.2 hlow)⟩)
    · exact .inr (.inr ⟨hhigh, hlow, if_neg (mt htrough.1 hlow)⟩)

theorem judge_eq_peaksTooHigh_iff (hg : g.rules.semantics = .vessel) :
    g.judge s = .peaksTooHigh ↔ g.HasHighPeak s := by
  rcases judge_of_vessel s hg with ⟨hhigh, hj⟩ | ⟨hhigh, -, hj⟩ | ⟨hhigh, -, hj⟩
  · simp [hj, hhigh]
  · simp [hj, hhigh]
  · rw [hj]
    split <;> simp [hhigh]

theorem judge_eq_troughsTooLow_iff (hg : g.rules.semantics = .vessel) :
    g.judge s = .troughsTooLow ↔ ¬g.HasHighPeak s ∧ g.HasLowTrough s := by
  rcases judge_of_vessel s hg with ⟨hhigh, hj⟩ | ⟨hhigh, hlow, hj⟩ | ⟨hhigh, hlow, hj⟩
  · simp [hj, hhigh]
  · simp [hj, hhigh, hlow]
  · rw [hj]
    split <;> simp [hhigh, hlow]

theorem judge_ne_height_iff (hg : g.rules.semantics = .vessel) :
    g.judge s ≠ .peaksTooHigh ∧ g.judge s ≠ .troughsTooLow ↔
      ¬g.HasHighPeak s ∧ ¬g.HasLowTrough s := by
  rw [ne_eq, ne_eq, judge_eq_peaksTooHigh_iff s hg, judge_eq_troughsTooLow_iff s hg]
  by_cases hhigh : g.HasHighPeak s <;> simp [hhigh]

end Grammar

namespace Level

theorem ofSymbol?_flat : ofSymbol? "F" = some 0 := by decide

theorem ofSymbol?_peak {k : Nat} (hone : 1 ≤ k) (hk : k < 10) :
    ∃ l, ofSymbol? ("P" ++ toString k) = some l ∧ 0 < l ∧ l.toInt.natAbs = k := by
  have hall : ∀ k < 10, 1 ≤ k → ofSymbol? ("P" ++ toString k) = some (Int8.ofNat k) ∧
      0 < Int8.ofNat k ∧ (Int8.ofNat k).toInt.natAbs = k := by
    decide +kernel
  exact ⟨_, hall k hk hone⟩

theorem ofSymbol?_trough {k : Nat} (hone : 1 ≤ k) (hk : k < 10) :
    ∃ l, ofSymbol? ("T" ++ toString k) = some l ∧ l < 0 ∧ l.toInt.natAbs = k := by
  have hall : ∀ k < 10, 1 ≤ k → ofSymbol? ("T" ++ toString k) = some (-Int8.ofNat k) ∧
      -Int8.ofNat k < 0 ∧ (-Int8.ofNat k).toInt.natAbs = k := by
    decide +kernel
  exact ⟨_, hall k hk hone⟩

end Level

theorem marked_word_inj {c d : Char} {j k : Nat} :
    String.singleton c ++ toString j = String.singleton d ++ toString k ↔ c = d ∧ j = k := by
  constructor
  · intro h
    have hchars := congrArg String.toList h
    rw [String.toList_append, String.toList_append, String.toList_singleton,
      String.toList_singleton] at hchars
    obtain ⟨hmarker, hdigits⟩ := List.cons.inj hchars
    change (toString j).toList = (toString k).toList at hdigits
    rw [Nat.toString_eq_repr, Nat.toString_eq_repr, Nat.toList_repr, Nat.toList_repr] at hdigits
    have hnumber := congrArg (Nat.ofDigitChars 10 · 0) hdigits
    simp only [Nat.ofDigitChars_ten_toDigits] at hnumber
    exact ⟨hmarker, hnumber⟩
  · rintro ⟨rfl, rfl⟩
    rfl

namespace GrammarRules

variable (r : GrammarRules) (l : Limits)

/-- The word names, behind a marker, a level whose height is above a limit. -/
def NamesAbove (marker : Char) (limit : Float) (w : String) : Prop :=
  ∃ k h, w = String.singleton marker ++ toString k ∧ r.heightOf? k = some h ∧ limit < h

def TooHigh (w : String) : Prop :=
  r.NamesAbove 'P' l.peak w

def TooLow (w : String) : Prop :=
  r.NamesAbove 'T' l.trough w

theorem exceeds_iff (limit : Float) (level : Level) :
    r.exceeds limit level = true ↔
      ∃ h, r.heightOf? level.toInt.natAbs = some h ∧ limit < h := by
  rw [exceeds, Option.any_eq_true]
  simp only [decide_eq_true_eq]

theorem not_namesAbove_flat (marker : Char) (limit : Float) :
    ¬r.NamesAbove marker limit "F" := by
  rintro ⟨k, h, hword, -⟩
  have hchars := congrArg String.toList hword
  rw [String.toList_append, String.toList_singleton] at hchars
  have hdigits : (toString k).toList = [] := (List.cons.inj hchars).2.symm
  exact Nat.repr_ne_empty (String.toList_eq_nil_iff.1 hdigits)

theorem namesAbove_marked_iff (marker : Char) (limit : Float) (k : Nat) :
    r.NamesAbove marker limit (String.singleton marker ++ toString k) ↔
      ∃ h, r.heightOf? k = some h ∧ limit < h := by
  constructor
  · rintro ⟨j, h, hword, hheight, habove⟩
    obtain ⟨-, rfl⟩ := marked_word_inj.1 hword
    exact ⟨h, hheight, habove⟩
  · rintro ⟨h, hheight, habove⟩
    exact ⟨k, h, rfl, hheight, habove⟩

theorem not_namesAbove_of_ne {c marker : Char} (hne : c ≠ marker) (limit : Float) (k : Nat) :
    ¬r.NamesAbove marker limit (String.singleton c ++ toString k) := by
  rintro ⟨j, h, hword, -⟩
  exact hne (marked_word_inj.1 hword).1

variable {r l}

theorem exists_height (hh : r.levels ≤ r.heights.length) {k : Nat} (hone : 1 ≤ k)
    (hk : k ≤ r.levels) : ∃ h, r.heightOf? k = some h := by
  obtain ⟨j, rfl⟩ := Nat.exists_eq_add_of_le' hone
  exact ⟨_, List.getElem?_eq_getElem (show j < r.heights.length by omega)⟩

/-- A word that spells a level is read back as this level, which exceeds a limit when the word
names a height above it. -/
theorem Spells.level {w : String} (hw : r.Spells l w) (hr : r.levels ≤ levelLimit) :
    ∃ level, Level.ofSymbol? w = some level ∧
      (0 < level ∧ r.exceeds l.peak level = true ↔ r.TooHigh l w) ∧
      (level < 0 ∧ r.exceeds l.trough level = true ↔ r.TooLow l w) := by
  rw [levelLimit] at hr
  rcases hw with rfl | ⟨k, ⟨hone, hle, -⟩, rfl⟩ | ⟨k, ⟨hone, hle, -⟩, rfl⟩
  · have hhigh : ¬r.TooHigh l "F" := r.not_namesAbove_flat 'P' l.peak
    have hlow : ¬r.TooLow l "F" := r.not_namesAbove_flat 'T' l.trough
    refine ⟨0, Level.ofSymbol?_flat, ?_, ?_⟩
    · simp [hhigh]
    · simp [hlow]
  · obtain ⟨level, hsymbol, hpos, rfl⟩ := Level.ofSymbol?_peak hone (by omega)
    refine ⟨level, hsymbol, ?_, ?_⟩
    · rw [exceeds_iff, and_iff_right hpos]
      exact (r.namesAbove_marked_iff 'P' l.peak _).symm
    · have hneg : ¬level < 0 := Int8.lt_asymm hpos
      have hlow := r.not_namesAbove_of_ne (show 'P' ≠ 'T' by decide) l.trough level.toInt.natAbs
      exact iff_of_false (fun h => hneg h.1) hlow
  · obtain ⟨level, hsymbol, hneg, rfl⟩ := Level.ofSymbol?_trough hone (by omega)
    refine ⟨level, hsymbol, ?_, ?_⟩
    · have hpos : ¬0 < level := Int8.lt_asymm hneg
      have hhigh := r.not_namesAbove_of_ne (show 'T' ≠ 'P' by decide) l.peak level.toInt.natAbs
      exact iff_of_false (fun h => hpos h.1) hhigh
    · rw [exceeds_iff, and_iff_right hneg]
      exact (r.namesAbove_marked_iff 'T' l.trough _).symm

end GrammarRules

namespace Grammar

variable (c : Collection) {r : GrammarRules} {l : Limits} {s : Sentence}

theorem exists_mem_levelsOf_iff {P : Level → Prop} {Q : String → Prop}
    (h : ∀ w ∈ s.words, ∃ level, Level.ofSymbol? w = some level ∧ (P level ↔ Q w)) :
    (∃ level ∈ levelsOf s, P level) ↔ ∃ w ∈ s.words, Q w := by
  constructor
  · rintro ⟨level, hlevel, hP⟩
    obtain ⟨w, hw, hsymbol⟩ := List.mem_filterMap.1 hlevel
    obtain ⟨level', hsymbol', hiff⟩ := h w hw
    obtain rfl : level' = level := Option.some.inj (hsymbol'.symm.trans hsymbol)
    exact ⟨w, hw, hiff.1 hP⟩
  · rintro ⟨w, hw, hQ⟩
    obtain ⟨level, hsymbol, hiff⟩ := h w hw
    exact ⟨level, List.mem_filterMap.2 ⟨w, hw, hsymbol⟩, hiff.2 hQ⟩

variable (hr : r.levels ≤ levelLimit) (hall : ∀ w ∈ s.words, r.Spells l w)
include hr hall

/-- Where all words spell levels, a level is above the limit if a word names its height. -/
theorem generated_hasHighPeak_iff :
    (generated c r l).HasHighPeak s ↔ ∃ w ∈ s.words, r.TooHigh l w := by
  refine exists_mem_levelsOf_iff fun w hw => ?_
  obtain ⟨level, hsymbol, hhigh, -⟩ := (hall w hw).level hr
  exact ⟨level, hsymbol, hhigh⟩

theorem generated_hasLowTrough_iff :
    (generated c r l).HasLowTrough s ↔ ∃ w ∈ s.words, r.TooLow l w := by
  refine exists_mem_levelsOf_iff fun w hw => ?_
  obtain ⟨level, hsymbol, -, hlow⟩ := (hall w hw).level hr
  exact ⟨level, hsymbol, hlow⟩

end Grammar
end Swell

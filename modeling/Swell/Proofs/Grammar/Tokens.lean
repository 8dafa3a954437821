import Swell.Grammar
import Swell.Proofs.Pattern.Matching
import Swell.Proofs.Recogniser.Single
import Swell.Proofs.Result
import Swell.Proofs.Sentence.Words

/-!
# The tokens of a generated grammar

Markers, digits and separators are patterns for one character, and the token of a level joins two
of them. Main statements: as long as single digits name the levels, every grammar can be generated;
and which words and separators its tokens accept.
-/
namespace Swell

namespace Pattern

def bracketed (c : Char) : Pattern :=
  ⟨"[" ++ String.singleton c ++ "]", .wholly (.one (.single c))⟩

def blank : Pattern :=
  ⟨"[\\s]", .wholly (.one (.property .blank))⟩

def bracketedTwo (c d : Char) : Pattern :=
  ⟨joinedSource [bracketed c, bracketed d], .wholly (.next (.one (.single c)) (.one (.single d)))⟩

theorem bracketed_accepts_iff (c : Char) (atom : Atom) :
    (bracketed c).accepts atom = true ↔ atom = String.singleton c := by
  rw [accepts, bracketed, Expr.found_wholly_iff, Expr.one_matches_whole_iff, ← String.toList_inj,
    String.toList_singleton]
  constructor
  · rintro ⟨d, hd, haccepts⟩
    rw [hd, (CharClass.accepts_single c d).1 haccepts]
  · intro h
    exact ⟨c, h, (CharClass.accepts_single c c).2 rfl⟩

theorem blank_accepts_iff (atom : Atom) :
    blank.accepts atom = true ↔ ∃ c, atom = String.singleton c ∧ Text.isBlank c = true := by
  rw [accepts, blank, Expr.found_wholly_iff, Expr.one_matches_whole_iff]
  simp only [← String.toList_inj, String.toList_singleton]
  rfl

theorem bracketedTwo_accepts_iff (c d : Char) (atom : Atom) :
    (bracketedTwo c d).accepts atom = true ↔ atom = String.ofList [c, d] := by
  rw [accepts, bracketedTwo, Expr.found_wholly_iff, Expr.two_match_whole_iff, ← String.toList_inj,
    String.toList_ofList]
  constructor
  · rintro ⟨a, b, hatom, ha, hb⟩
    rw [hatom, (CharClass.accepts_single c a).1 ha, (CharClass.accepts_single d b).1 hb]
  · intro h
    exact ⟨c, d, h, (CharClass.accepts_single c c).2 rfl, (CharClass.accepts_single d d).2 rfl⟩

theorem read_blank : read "[\\s]" = .ok blank := by
  decide +kernel

theorem read_bracketed_of_marker {c : Char} (hc : c = 'F' ∨ c = 'P' ∨ c = 'T') :
    read (bracketed c).source = .ok (bracketed c) := by
  rcases hc with rfl | rfl | rfl
  · decide +kernel
  · decide +kernel
  · decide +kernel

theorem bracketed_digit_source {k : Nat} (hk : k < 10) :
    "[" ++ toString k ++ "]" = (bracketed k.digitChar).source := by
  rw [Nat.toString_eq_repr, Nat.repr_of_lt hk]
  rfl

theorem read_bracketed_of_digit {k : Nat} (hk : k < 10) :
    read (bracketed k.digitChar).source = .ok (bracketed k.digitChar) := by
  have hall : ∀ k < 10, read (bracketed k.digitChar).source = .ok (bracketed k.digitChar) := by
    decide +kernel
  exact hall k hk

theorem join_bracketed {c : Char} (hc : c = 'P' ∨ c = 'T') {k : Nat} (hk : k < 10) :
    join [bracketed c, bracketed k.digitChar] = .ok (bracketedTwo c k.digitChar) := by
  have hpeaks : ∀ k < 10,
      join [bracketed 'P', bracketed k.digitChar] = .ok (bracketedTwo 'P' k.digitChar) := by
    decide +kernel
  have htroughs : ∀ k < 10,
      join [bracketed 'T', bracketed k.digitChar] = .ok (bracketedTwo 'T' k.digitChar) := by
    decide +kernel
  rcases hc with rfl | rfl
  · exact hpeaks k hk
  · exact htroughs k hk

end Pattern

namespace Token

/-- The token of a marker with the digit of a level behind it. -/
def marked (marker : Char) (level : Nat) : Token :=
  ⟨.bracketedTwo marker level.digitChar,
    .sequence [.pattern ("[" ++ String.singleton marker ++ "]"),
      .pattern ("[" ++ toString level ++ "]")]⟩

theorem marked_accepts_iff (marker : Char) {k : Nat} (hk : k < 10) (atom : Atom) :
    (marked marker k).pattern.accepts atom = true ↔
      atom = String.singleton marker ++ toString k := by
  rw [marked, Pattern.bracketedTwo_accepts_iff, Nat.toString_eq_repr, Nat.repr_of_lt hk,
    ← String.toList_inj, ← String.toList_inj, String.toList_append]
  simp

theorem ofLevel_eq_marked {marker : Char} (hm : marker = 'P' ∨ marker = 'T') {k : Nat}
    (hk : k < 10) : ofLevel ("[" ++ String.singleton marker ++ "]") k = .ok (marked marker k) := by
  have hmarker : Pattern.read ("[" ++ String.singleton marker ++ "]") =
      .ok (Pattern.bracketed marker) :=
    Pattern.read_bracketed_of_marker (.inr hm)
  have hdigit : Pattern.read ("[" ++ toString k ++ "]") =
      .ok (Pattern.bracketed k.digitChar) := by
    rw [Pattern.bracketed_digit_source hk]
    exact Pattern.read_bracketed_of_digit hk
  have hparts : ofLevel ("[" ++ String.singleton marker ++ "]") k =
      ["[" ++ String.singleton marker ++ "]", "[" ++ toString k ++ "]"].mapM Pattern.read >>=
        compound := rfl
  rw [hparts, List.mapM_cons, List.mapM_cons, List.mapM_nil, hmarker, hdigit]
  change compound [Pattern.bracketed marker, Pattern.bracketed k.digitChar] = _
  rw [compound, Pattern.join_bracketed hm hk, marked, Pattern.bracketed_digit_source hk]
  rfl

def blank : Token :=
  ofPattern .blank

def flat : Token :=
  ofPattern (.bracketed 'F')

theorem read_blank : Token.read "[\\s]" = .ok .blank := by
  rw [Token.read, Pattern.read_blank]
  rfl

theorem blank_accepts_separator : blank.pattern.accepts separator = true :=
  (Pattern.blank_accepts_iff separator).2 ⟨' ', rfl, Text.isBlank_space⟩

theorem blank_refuses_word {w : String} (hw : Text.IsWord w) :
    ¬blank.pattern.accepts w = true := by
  intro h
  obtain ⟨c, rfl, hc⟩ := (Pattern.blank_accepts_iff w).1 h
  have hc' := hw.2 c (by simp)
  rw [hc] at hc'
  cases hc'

end Token

namespace GrammarRules

variable (r : GrammarRules) (l : Limits)

/-- The tokens for the levels that are kept, then the separator and the flat marker. -/
def tokenList : List Token :=
  (r.keptLevels l.peak).map (.marked 'P') ++ (r.keptLevels l.trough).map (.marked 'T') ++
    [.blank, .flat]

/-- The level is one of the rules' levels, and strict rules do not find it above the limit. What
has no height is above every limit. -/
def Kept (limit : Float) (k : Nat) : Prop :=
  1 ≤ k ∧ k ≤ r.levels ∧
    ¬(r.enforcement = .strict ∧ limit < (r.heightOf? k).getD Decimal.infinity)

/-- The word spells flat water, or a level that is kept. -/
def Spells (word : String) : Prop :=
  word = "F" ∨ (∃ k, r.Kept l.peak k ∧ word = "P" ++ toString k) ∨
    ∃ k, r.Kept l.trough k ∧ word = "T" ++ toString k

theorem mem_keptLevels (limit : Float) (k : Nat) : k ∈ r.keptLevels limit ↔ r.Kept limit k := by
  rw [keptLevels, List.mem_filter, List.mem_range'_1, keeps, fits, Kept, Bool.or_eq_true,
    bne_iff_ne, Bool.not_eq_true', decide_eq_false_iff_not, not_and_or]
  constructor
  · rintro ⟨hk, hkept⟩
    exact ⟨by omega, by omega, hkept⟩
  · rintro ⟨hone, hle, hkept⟩
    exact ⟨by omega, hkept⟩

theorem keptLevels_ascending (limit : Float) : (r.keptLevels limit).Pairwise (· < ·) :=
  (List.pairwise_lt_range').filter _

variable {r l}

theorem lt_ten_of_mem_keptLevels (hr : r.levels ≤ levelLimit) {limit : Float} {k : Nat}
    (hk : k ∈ r.keptLevels limit) : k < 10 := by
  have hle := ((r.mem_keptLevels limit k).1 hk).2.1
  rw [levelLimit] at hr
  omega

/-- The tokens of a marker accept the marker with a level that is kept. -/
theorem exists_marked_accepts_iff (hr : r.levels ≤ levelLimit) (marker : Char) (limit : Float)
    (atom : Atom) :
    (∃ t ∈ (r.keptLevels limit).map (Token.marked marker), t.pattern.accepts atom = true) ↔
      ∃ k, r.Kept limit k ∧ atom = String.singleton marker ++ toString k := by
  constructor
  · rintro ⟨t, ht, haccepts⟩
    obtain ⟨k, hk, rfl⟩ := List.mem_map.1 ht
    rw [Token.marked_accepts_iff marker (lt_ten_of_mem_keptLevels hr hk)] at haccepts
    exact ⟨k, (r.mem_keptLevels limit k).1 hk, haccepts⟩
  · rintro ⟨k, hk, hatom⟩
    have hmem := (r.mem_keptLevels limit k).2 hk
    refine ⟨.marked marker k, List.mem_map_of_mem hmem, ?_⟩
    rw [Token.marked_accepts_iff marker (lt_ten_of_mem_keptLevels hr hmem)]
    exact hatom

theorem tokenList_accepts_iff (hr : r.levels ≤ levelLimit) {w : String} (hw : Text.IsWord w) :
    (∃ t ∈ r.tokenList l, t.pattern.accepts w = true) ↔ r.Spells l w := by
  have hpeaks := exists_marked_accepts_iff hr 'P' l.peak w
  have htroughs := exists_marked_accepts_iff hr 'T' l.trough w
  have hflat : (∃ t ∈ [Token.blank, Token.flat], t.pattern.accepts w = true) ↔ w = "F" := by
    constructor
    · rintro ⟨t, ht, haccepts⟩
      rcases List.mem_pair.1 ht with rfl | rfl
      · exact absurd haccepts (Token.blank_refuses_word hw)
      · exact (Pattern.bracketed_accepts_iff 'F' w).1 haccepts
    · rintro rfl
      exact ⟨.flat, by simp, (Pattern.bracketed_accepts_iff 'F' "F").2 rfl⟩
  rw [Spells, ← hflat]
  simp only [tokenList, List.mem_append, or_and_right, exists_or]
  rw [hpeaks, htroughs]
  constructor
  · rintro ((hpeak | htrough) | hflat)
    · exact .inr (.inl hpeak)
    · exact .inr (.inr htrough)
    · exact .inl hflat
  · rintro (hflat | hpeak | htrough)
    · exact .inr hflat
    · exact .inl (.inl hpeak)
    · exact .inl (.inr htrough)

theorem mapM_ofLevel_eq_ok (hr : r.levels ≤ levelLimit) (limit : Float) {marker : Char}
    (hm : marker = 'P' ∨ marker = 'T') :
    (r.keptLevels limit).mapM (Token.ofLevel ("[" ++ String.singleton marker ++ "]")) =
      .ok ((r.keptLevels limit).map (.marked marker)) := by
  apply mapM_eq_ok
  intro k hk
  exact Token.ofLevel_eq_marked hm (lt_ten_of_mem_keptLevels hr hk)

end GrammarRules

namespace Grammar

/-- The grammar that is generated for limits. -/
def generated (c : Collection) (r : GrammarRules) (l : Limits) : Grammar :=
  ⟨c, .choice ((r.tokenList l).map .token), l, r⟩

theorem tokens_eq_ok {r : GrammarRules} {l : Limits} (hr : r.levels ≤ levelLimit) :
    tokens r l = .ok (r.tokenList l) := by
  have hpeaks := GrammarRules.mapM_ofLevel_eq_ok hr l.peak (.inl rfl)
  have htroughs := GrammarRules.mapM_ofLevel_eq_ok hr l.trough (.inr rfl)
  rw [show "[" ++ String.singleton 'P' ++ "]" = "[P]" by decide] at hpeaks
  rw [show "[" ++ String.singleton 'T' ++ "]" = "[T]" by decide] at htroughs
  have hflat : Token.read "[F]" = .ok .flat := by
    have hread := Pattern.read_bracketed_of_marker (c := 'F') (.inl rfl)
    rw [Token.read, show "[F]" = (Pattern.bracketed 'F').source from rfl, hread]
    rfl
  rw [tokens, hpeaks, htroughs, Token.read_blank, hflat]
  rfl

theorem generate_eq_ok (c : Collection) {r : GrammarRules} (l : Limits)
    (hr : r.levels ≤ levelLimit) : generate c r l = .ok (generated c r l) := by
  rw [generate, tokens_eq_ok hr]
  rfl

end Grammar
end Swell

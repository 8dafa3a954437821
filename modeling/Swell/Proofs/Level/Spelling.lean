import Mathlib.Data.List.Basic
import Swell.Proofs.Sentence.Symbols
import Swell.Proofs.Text.Digits

/-!
# Spellings of levels

The digits behind the marker of a level are read as any number is, so that a plus sign and zeros in
front of them change nothing. Main statements: which words are read as a level, namely its symbol
and the symbol with such a padding behind the marker; hence symbols and levels are inverse to each
other among words without padding, except for the lowest level, which no word stands for.
-/
namespace Swell

namespace Level

/-- What changes nothing between a marker and a distance: zeros, which a plus sign may precede. -/
def IsPadding (cs : List Char) : Prop :=
  ∃ zeros, cs = List.replicate zeros '0' ∨ cs = '+' :: List.replicate zeros '0'

/-- The word is a marker with a number behind it, padded or not. -/
def IsMarked (marker : Char) (n : Nat) (word : String) : Prop :=
  ∃ padding, IsPadding padding ∧
    word = String.singleton marker ++ String.ofList padding ++ toString n

/-- The word is the symbol of the level, but for a padding in front of the distance. -/
def SpelledBy (l : Level) (word : String) : Prop :=
  (l = 0 ∧ word = "F") ∨ (0 < l ∧ IsMarked 'P' l.toInt.natAbs word) ∨
    (l < 0 ∧ IsMarked 'T' l.toInt.natAbs word)

/-- Nothing that could be padding stands behind the first character of the word. -/
def IsUnpadded (word : String) : Prop :=
  ∀ c, word.toList[1]? = some c → c ≠ '+' ∧ c ≠ '0'

theorem ite_decimalValue_eq_some_iff (cs : List Char) (n : Nat) :
    (if !cs.isEmpty && cs.all Char.isDigit && 1 ≤ Text.decimalValue cs &&
        Text.decimalValue cs ≤ 127 then some (Text.decimalValue cs) else none) = some n ↔
      1 ≤ n ∧ n ≤ 127 ∧ ∃ zeros, cs = List.replicate zeros '0' ++ Nat.toDigits 10 n := by
  constructor
  · intro h
    obtain ⟨hcond, hvalue⟩ := Option.ite_none_right_eq_some.1 h
    simp only [Bool.and_eq_true, decide_eq_true_eq, List.all_eq_true] at hcond
    obtain ⟨⟨⟨-, hdigits⟩, hone⟩, hle⟩ := hcond
    obtain rfl := Option.some.inj hvalue
    exact ⟨hone, hle, Text.exists_zeros_append hdigits hone⟩
  · rintro ⟨hone, hle, zeros, rfl⟩
    have hdigits : ∀ c ∈ List.replicate zeros '0' ++ Nat.toDigits 10 n, c.isDigit = true := by
      intro c hc
      rcases List.mem_append.1 hc with hzero | hdigit
      · rw [(List.mem_replicate.1 hzero).2]
        rfl
      · exact Nat.isDigit_of_mem_toDigits (by decide) (by decide) hdigit
    have hne : List.replicate zeros '0' ++ Nat.toDigits 10 n ≠ [] :=
      List.append_ne_nil_of_right_ne_nil _ Nat.toDigits_ne_nil
    rw [Text.decimalValue_zeros_append, if_pos]
    simp only [Bool.and_eq_true, decide_eq_true_eq, List.all_eq_true, Bool.not_eq_true',
      List.isEmpty_eq_false_iff]
    exact ⟨⟨⟨hne, hdigits⟩, hone⟩, hle⟩

theorem readDistance?_eq_some_iff (cs : List Char) (n : Nat) :
    readDistance? cs = some n ↔
      1 ≤ n ∧ n ≤ 127 ∧ ∃ padding, IsPadding padding ∧ cs = padding ++ Nat.toDigits 10 n := by
  unfold readDistance?
  constructor
  · intro h
    split at h
    · next rest =>
      obtain ⟨hone, hle, zeros, rfl⟩ := (ite_decimalValue_eq_some_iff rest n).1 h
      exact ⟨hone, hle, _, ⟨zeros, .inr rfl⟩, rfl⟩
    · obtain ⟨hone, hle, zeros, rfl⟩ := (ite_decimalValue_eq_some_iff cs n).1 h
      exact ⟨hone, hle, _, ⟨zeros, .inl rfl⟩, rfl⟩
  · rintro ⟨hone, hle, padding, ⟨zeros, rfl | rfl⟩, rfl⟩
    · split
      · next rest hplus =>
        -- a plus sign is neither a zero nor a digit
        have hmem : '+' ∈ List.replicate zeros '0' ++ Nat.toDigits 10 n :=
          hplus ▸ List.mem_cons_self
        rcases List.mem_append.1 hmem with hzero | hdigit
        · exact absurd (List.mem_replicate.1 hzero).2 (by decide)
        · exact absurd (Nat.isDigit_of_mem_toDigits (by decide) (by decide) hdigit) (by decide)
      · exact (ite_decimalValue_eq_some_iff _ n).2 ⟨hone, hle, zeros, rfl⟩
    · exact (ite_decimalValue_eq_some_iff _ n).2 ⟨hone, hle, zeros, rfl⟩

theorem toInt_ofNat {n : Nat} (hn : n ≤ 127) :
    (Int8.ofNat n).toInt = n ∧ (-Int8.ofNat n).toInt = -n := by
  have hall : ∀ n < 128, (Int8.ofNat n).toInt = n ∧ (-Int8.ofNat n).toInt = -n := by
    decide +kernel
  exact hall n (Nat.lt_succ_of_le hn)

theorem eq_ofNat_iff {l : Level} {n : Nat} (hone : 1 ≤ n) (hn : n ≤ 127) :
    Int8.ofNat n = l ↔ 0 < l ∧ l.toInt.natAbs = n := by
  rw [Int8.lt_iff_toInt_lt, ← Int8.toInt_inj, (toInt_ofNat hn).1, Int8.toInt_zero]
  omega

theorem eq_neg_ofNat_iff {l : Level} {n : Nat} (hone : 1 ≤ n) (hn : n ≤ 127) :
    -Int8.ofNat n = l ↔ l < 0 ∧ l.toInt.natAbs = n := by
  rw [Int8.lt_iff_toInt_lt, ← Int8.toInt_inj, (toInt_ofNat hn).2, Int8.toInt_zero]
  omega

theorem ne_lowest_iff (l : Level) : l ≠ -128 ↔ l.toInt.natAbs ≤ 127 := by
  have hle := l.toInt_lt
  have hge := l.le_toInt
  rw [Ne, ← Int8.toInt_inj, show (-128 : Level).toInt = -128 by decide]
  omega

theorem toList_padded (marker : Char) (padding : List Char) (n : Nat) :
    (String.singleton marker ++ String.ofList padding ++ toString n).toList =
      marker :: (padding ++ Nat.toDigits 10 n) := by
  rw [String.toList_append, String.toList_append, String.toList_singleton, String.toList_ofList,
    Nat.toString_eq_repr, Nat.toList_repr]
  rfl

theorem exists_distance_iff (word : String) (marker : Char) (P : Nat → Prop) :
    (∃ cs n, word.toList = marker :: cs ∧ readDistance? cs = some n ∧ P n) ↔
      ∃ n, (1 ≤ n ∧ n ≤ 127) ∧ P n ∧ IsMarked marker n word := by
  constructor
  · rintro ⟨cs, n, hword, hread, hP⟩
    obtain ⟨hone, hle, padding, hpadding, rfl⟩ := (readDistance?_eq_some_iff cs n).1 hread
    refine ⟨n, ⟨hone, hle⟩, hP, padding, hpadding, String.toList_inj.1 ?_⟩
    rw [hword, toList_padded]
  · rintro ⟨n, ⟨hone, hle⟩, hP, padding, hpadding, rfl⟩
    exact ⟨_, n, toList_padded marker padding n,
      (readDistance?_eq_some_iff _ n).2 ⟨hone, hle, padding, hpadding, rfl⟩, hP⟩

theorem ofSymbol?_cases (word : String) (l : Level) :
    ofSymbol? word = some l ↔
      (word = "F" ∧ l = 0) ∨
      (∃ cs n, word.toList = 'P' :: cs ∧ readDistance? cs = some n ∧ Int8.ofNat n = l) ∨
      ∃ cs n, word.toList = 'T' :: cs ∧ readDistance? cs = some n ∧ -Int8.ofNat n = l := by
  have hflat : word = "F" ↔ word.toList = ['F'] := String.toList_inj.symm
  rw [hflat, ofSymbol?]
  split
  · next h => simp [h, eq_comm]
  · next cs h => simp [h]
  · next cs h => simp [h]
  · next hflat hpeak htrough =>
    simp only [reduceCtorEq, false_iff, not_or]
    exact ⟨fun h => hflat h.1, fun ⟨cs, _, h, _⟩ => hpeak cs h, fun ⟨cs, _, h, _⟩ => htrough cs h⟩

/-- A word is read as the levels that it spells, of which the lowest is never one. -/
theorem ofSymbol?_eq_some_iff (word : String) (l : Level) :
    ofSymbol? word = some l ↔ l ≠ -128 ∧ l.SpelledBy word := by
  rw [ofSymbol?_cases, exists_distance_iff, exists_distance_iff, ne_lowest_iff]
  constructor
  · rintro (⟨rfl, rfl⟩ | ⟨n, ⟨hone, hle⟩, hlevel, hword⟩ | ⟨n, ⟨hone, hle⟩, hlevel, hword⟩)
    · exact ⟨by decide, .inl ⟨rfl, rfl⟩⟩
    · obtain ⟨hpos, rfl⟩ := (eq_ofNat_iff hone hle).1 hlevel
      exact ⟨hle, .inr (.inl ⟨hpos, hword⟩)⟩
    · obtain ⟨hneg, rfl⟩ := (eq_neg_ofNat_iff hone hle).1 hlevel
      exact ⟨hle, .inr (.inr ⟨hneg, hword⟩)⟩
  · rintro ⟨hle, ⟨rfl, rfl⟩ | ⟨hpos, hword⟩ | ⟨hneg, hword⟩⟩
    · exact .inl ⟨rfl, rfl⟩
    · have hone : 1 ≤ l.toInt.natAbs := by
        rw [Int8.lt_iff_toInt_lt, Int8.toInt_zero] at hpos
        omega
      exact .inr (.inl ⟨_, ⟨hone, hle⟩, (eq_ofNat_iff hone hle).2 ⟨hpos, rfl⟩, hword⟩)
    · have hone : 1 ≤ l.toInt.natAbs := by
        rw [Int8.lt_iff_toInt_lt, Int8.toInt_zero] at hneg
        omega
      exact .inr (.inr ⟨_, ⟨hone, hle⟩, (eq_neg_ofNat_iff hone hle).2 ⟨hneg, rfl⟩, hword⟩)

theorem isUnpadded_marked_iff {marker : Char} {padding : List Char} (hpadding : IsPadding padding)
    {n : Nat} (hn : 0 < n) :
    IsUnpadded (String.singleton marker ++ String.ofList padding ++ toString n) ↔ padding = [] := by
  rw [IsUnpadded, toList_padded, List.getElem?_cons_succ, ← List.head?_eq_getElem?]
  constructor
  · intro h
    obtain ⟨zeros, rfl | rfl⟩ := hpadding
    · cases zeros with
      | zero => rfl
      | succ zeros => exact absurd rfl (h '0' rfl).2
    · exact absurd rfl (h '+' rfl).1
  · rintro rfl c hc
    refine ⟨?_, ?_⟩
    · rintro rfl
      have hdigit := Nat.isDigit_of_mem_toDigits (by decide) (by decide) (List.mem_of_mem_head? hc)
      exact absurd hdigit (by decide)
    · rintro rfl
      exact Text.head?_toDigits_ne_zero hn hc

theorem isMarked_unpadded_iff (marker : Char) {n : Nat} (hn : 0 < n) (word : String) :
    IsMarked marker n word ∧ IsUnpadded word ↔ word = String.singleton marker ++ toString n := by
  constructor
  · rintro ⟨⟨padding, hpadding, rfl⟩, hplain⟩
    obtain rfl := (isUnpadded_marked_iff hpadding hn).1 hplain
    rw [String.ofList_nil, String.append_empty]
  · intro hword
    have hnone : IsPadding [] := ⟨0, .inl rfl⟩
    have hmarked : word = String.singleton marker ++ String.ofList [] ++ toString n := by
      rw [hword, String.ofList_nil, String.append_empty]
    exact ⟨⟨[], hnone, hmarked⟩, hmarked ▸ (isUnpadded_marked_iff hnone hn).2 rfl⟩

theorem spelledBy_unpadded_iff (l : Level) (word : String) :
    l.SpelledBy word ∧ IsUnpadded word ↔ word = l.symbol := by
  have hzero : l = 0 ↔ l.toInt = 0 := by rw [← Int8.toInt_inj, Int8.toInt_zero]
  rw [SpelledBy, Int8.lt_iff_toInt_lt, Int8.lt_iff_toInt_lt, Int8.toInt_zero, hzero]
  rcases l.symbol_cases with ⟨hl, hsymbol⟩ | ⟨hl, hsymbol⟩ | ⟨hl, hsymbol⟩
  · have hflat : word = "F" → IsUnpadded word := by
      rintro rfl c hc
      simp at hc
    simpa [hl, hsymbol] using hflat
  · have hne : l.toInt ≠ 0 := by omega
    have hneg : ¬l.toInt < 0 := by omega
    rw [hsymbol, or_iff_right (fun h => hne h.1), or_iff_left (fun h => hneg h.1), and_iff_right hl]
    exact isMarked_unpadded_iff 'P' (by omega) word
  · have hne : l.toInt ≠ 0 := by omega
    have hpos : ¬0 < l.toInt := by omega
    rw [hsymbol, or_iff_right (fun h => hne h.1), or_iff_right (fun h => hpos h.1),
      and_iff_right hl]
    exact isMarked_unpadded_iff 'T' (by omega) word

end Level

/-- A word is read as a level exactly if it is the symbol of the level, with or without a plus sign
and zeros behind the marker, and the level is not the lowest one, whose distance no level above
flat has. So reading is the inverse of spelling on the words without such a padding. -/
theorem levels_are_read_from_spellings (word : String) (l : Level) :
    (Level.ofSymbol? word = some l ↔ l ≠ -128 ∧ l.SpelledBy word) ∧
    (Level.ofSymbol? word = some l ∧ Level.IsUnpadded word ↔ l ≠ -128 ∧ word = l.symbol) := by
  refine ⟨Level.ofSymbol?_eq_some_iff word l, ?_⟩
  rw [Level.ofSymbol?_eq_some_iff, and_assoc, Level.spelledBy_unpadded_iff]

/-- A word with a plus sign is read as a level whose symbol is another word, and the symbol of the
lowest level is read as no level. -/
theorem padded_word_and_lowest_symbol_break_inverse :
    (Level.ofSymbol? "P+1" = some 1 ∧ "P+1" ≠ Level.symbol 1) ∧
      Level.ofSymbol? (Level.symbol (-128)) = none := by
  decide

end Swell

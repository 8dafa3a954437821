import Swell.Proofs.Scalar.Order
import Swell.Proofs.Signal.Ascending
import Swell.Proofs.Signal.Levels

/-!
# Bins between bounds

Main statement, over the floating-point numbers that programs run on: a classifier by bounds gives
each value the number of the bin that it falls into, counted from the bin in the middle, where a
bound belongs to the bin above it.
-/
namespace Swell

theorem pairwise_lt_of_isAscending {bounds : List Float}
    (hfinite : ∀ b ∈ bounds, b.isFinite = true) (h : isAscending bounds = true) :
    bounds.Pairwise fun a b => a < b := by
  rw [← List.isChain_iff_pairwise, ← forall_mem_zip_tail_iff]
  intro p hp
  have hnot : ¬p.2 ≤ p.1 := by simpa [Scalar.le] using List.all_eq_true.1 h p hp
  obtain ⟨hleft, hright⟩ := List.of_mem_zip hp
  exact (Scalar.not_le_iff_lt
    (Scalar.isNaN_eq_false_of_isFinite (hfinite p.2 (List.mem_of_mem_tail hright)))
    (Scalar.isNaN_eq_false_of_isFinite (hfinite p.1 hleft))).1 hnot

/-- Bounds that have a bin in the middle and as many bins below it as above it. -/
structure BinBounds (bounds : List Float) (n : Nat) : Prop where
  length_eq : bounds.length = 2 * n
  pos : 0 < n
  numbers : ∀ b ∈ bounds, b.isNaN = false
  ascending : bounds.Pairwise fun a b => a < b

namespace BinBounds

variable {bounds : List Float} {n : Nat}

theorem of_check (hcheck : (Classifier.breakpoints bounds).check = .ok ())
    (hlength : bounds.length = 2 * n) : BinBounds bounds n := by
  rw [Classifier.check] at hcheck
  split at hcheck
  · cases hcheck
  · next hcount =>
    split at hcheck
    · next hbounds =>
      rw [Bool.and_eq_true, List.all_eq_true] at hbounds
      simp only [Bool.or_eq_true, List.isEmpty_iff, not_or] at hcount
      have hpos := List.length_pos_iff.2 hcount.1
      exact ⟨hlength, by omega,
        fun b hb => Scalar.isNaN_eq_false_of_isFinite (hbounds.1 b hb),
        pairwise_lt_of_isAscending hbounds.1 hbounds.2⟩
    · cases hcheck

variable (h : BinBounds bounds n)
include h

/-- A value that reaches a bound reaches all bounds before it. -/
theorem holdFirst (v : Float) : HoldFirst (fun b => decide (b ≤ v)) bounds :=
  h.ascending.imp fun hab hb =>
    decide_eq_true (Scalar.le_trans (Scalar.le_of_lt hab) (of_decide_eq_true hb))

theorem lt_count_iff {i : Nat} {b : Float} (hb : bounds[i]? = some b) (v : Float) :
    i < bounds.countP (· ≤ v) ↔ b ≤ v := by
  rw [(h.holdFirst v).lt_countP_iff hb, decide_eq_true_iff]

theorem count_eq_of_equal {i : Nat} {b v : Float} (hb : bounds[i]? = some b) (hbv : b ≤ v)
    (hvb : v ≤ b) : bounds.countP (· ≤ v) = i + 1 := by
  have hlow := (h.lt_count_iff hb v).2 hbv
  have hhigh : ¬i + 1 < bounds.countP (· ≤ v) := by
    intro hlt
    have hnext : i + 1 < bounds.length := hlt.trans_le List.countP_le_length
    have hget : bounds[i + 1]? = some bounds[i + 1] := List.getElem?_eq_getElem hnext
    have hreached := Scalar.le_trans ((h.lt_count_iff hget v).1 hlt) hvb
    obtain ⟨hi, rfl⟩ := List.getElem?_eq_some_iff.1 hb
    have hascend := List.pairwise_iff_getElem.1 h.ascending i (i + 1) hi hnext (by omega)
    exact Scalar.lt_irrefl _ (Scalar.lt_of_le_of_lt hreached hascend)
  omega

/-- The values that reach half of the bounds are those between the two bounds in the middle. -/
theorem count_eq_iff {v : Float} (hv : v.isNaN = false) :
    bounds.countP (· ≤ v) = n ↔
      ∃ low high, bounds[n - 1]? = some low ∧ bounds[n]? = some high ∧ low ≤ v ∧ v < high := by
  have hlength := h.length_eq
  have hpos := h.pos
  have hlow : bounds[n - 1]? = some bounds[n - 1] := List.getElem?_eq_getElem (by omega)
  have hhigh : bounds[n]? = some bounds[n] := List.getElem?_eq_getElem (by omega)
  have hnumber := h.numbers bounds[n] (List.getElem_mem _)
  simp only [hlow, hhigh, Option.some.injEq, exists_and_left, exists_eq_left']
  rw [← h.lt_count_iff hlow v, ← Scalar.not_le_iff_lt hnumber hv, ← h.lt_count_iff hhigh v]
  omega

end BinBounds

theorem toInt_of_binLevel {bounds : List Float} {v : Float} {l : Level}
    (h : binLevel bounds v = .ok l) :
    l.toInt = countByHalves (fun b => Scalar.le b v) bounds - (bounds.length / 2 : Nat) := by
  rw [binLevel] at h
  split at h
  · next hrange =>
    obtain rfl := Except.ok.inj h
    exact Int8.toInt_ofInt_of_le (by omega) (by omega)
  · cases h

/-- A level is the number of the bin that a value falls into, counted from the bin in the middle. -/
structure Level.IsBin (l : Level) (bounds : List Float) (n : Nat) (v : Float) : Prop where
  /-- The level counts the bounds that the value reaches. -/
  toInt_eq : l.toInt = bounds.countP (· ≤ v) - n
  le_toInt : -n ≤ l.toInt
  toInt_le : l.toInt ≤ n
  within : l.Within (Classifier.breakpoints bounds).levels
  /-- A bound belongs to the bin above it. -/
  toInt_of_equal : ∀ (i : Nat) b, bounds[i]? = some b → b ≤ v → v ≤ b → l.toInt = i + 1 - n
  /-- The bin in the middle has its lower bound and not its upper one. -/
  eq_zero_iff : l = 0 ↔
    ∃ low high, bounds[n - 1]? = some low ∧ bounds[n]? = some high ∧ low ≤ v ∧ v < high

namespace BinBounds

variable {bounds : List Float} {n : Nat} (h : BinBounds bounds n)
include h

theorem toInt_eq {v : Float} {l : Level} (hl : binLevel bounds v = .ok l) :
    l.toInt = bounds.countP (· ≤ v) - n := by
  have hlength := h.length_eq
  have hcount : countByHalves (fun b => Scalar.le b v) bounds = bounds.countP (· ≤ v) :=
    countByHalves_eq_countP (h.holdFirst v)
  rw [toInt_of_binLevel hl, hcount]
  omega

theorem isBin {v : Float} (hv : v.isNaN = false) {l : Level} (hl : binLevel bounds v = .ok l) :
    l.IsBin bounds n v := by
  have hlength := h.length_eq
  have hcount : bounds.countP (· ≤ v) ≤ bounds.length := List.countP_le_length
  have htoInt := h.toInt_eq hl
  refine ⟨htoInt, by omega, by omega, ?_, ?_, ?_⟩
  · rw [Level.Within, Classifier.levels]
    omega
  · intro i b hb hbv hvb
    rw [htoInt, h.count_eq_of_equal hb hbv hvb]
    omega
  · rw [← h.count_eq_iff hv, ← Int8.toInt_inj, htoInt]
    change _ = (0 : Int) ↔ _
    omega

end BinBounds

/-- A classifier by `2 * n` bounds has a level for each value: the number of bounds that the value
reaches, less `n`. It gives a series the levels of all its values, in their order, and no value has
a higher level than a greater one. -/
theorem levels_are_bins (bounds : List Float) (n : Nat)
    (hcheck : (Classifier.breakpoints bounds).check = .ok ()) (hlength : bounds.length = 2 * n)
    (hn : n ≤ 127) :
    ∃ level : Float → Level,
      (∀ s, (Classifier.breakpoints bounds).classify s =
        .ok ⟨(List.range s.y.length).map Int.ofNat, s.y.map level⟩) ∧
      (∀ v, v.isNaN = false → (level v).IsBin bounds n v) ∧
      ∀ v w, v ≤ w → level v ≤ level w := by
  have hbounds := BinBounds.of_check hcheck hlength
  choose level hlevel _ using exists_binLevel hlength hn
  refine ⟨level, Classifier.classify_breakpoints hlevel,
    fun v hv => hbounds.isBin hv (hlevel v), fun v w hvw => ?_⟩
  -- a greater value reaches all bounds that the smaller one reaches
  have hcount : bounds.countP (· ≤ v) ≤ bounds.countP (· ≤ w) :=
    List.countP_mono_left fun b _ hb =>
      decide_eq_true (Scalar.le_trans (of_decide_eq_true hb) hvw)
  rw [Int8.le_iff_toInt_le, hbounds.toInt_eq (hlevel v), hbounds.toInt_eq (hlevel w)]
  omega

def sixBounds : List Float :=
  [0, 5, 8, 12, 15, 20]

/-- A bound belongs to the bin above it, and the zeros of both signs to one bin. -/
theorem sixBounds_are_in_the_bins_above :
    (Classifier.breakpoints sixBounds).check = .ok () ∧
      (Classifier.breakpoints sixBounds).classify ⟨[], [-1, -0.0, 0, 8, 11, 12, 25]⟩ =
        .ok ⟨[0, 1, 2, 3, 4, 5, 6], [-3, -2, -2, 0, 0, 1, 3]⟩ := by
  have hcheck : (Classifier.breakpoints sixBounds).check = .ok () := by
    rw [Classifier.check, if_neg (by decide), if_pos (by decide)]
  obtain ⟨level, hclassify, hbin, -⟩ := levels_are_bins sixBounds 3 hcheck (by decide) (by decide)
  have hlevel (v : Float) (l : Level) (hv : v.isNaN = false)
      (hl : l.toInt = sixBounds.countP (· ≤ v) - (3 : Nat)) : level v = l :=
    Int8.toInt_inj.1 ((hbin v hv).toInt_eq.trans hl.symm)
  refine ⟨hcheck, ?_⟩
  rw [hclassify]
  simp only [List.map_cons, List.map_nil, hlevel (-1) (-3) (by decide) (by decide),
    hlevel (-0.0) (-2) (by decide) (by decide), hlevel 0 (-2) (by decide) (by decide),
    hlevel 8 0 (by decide) (by decide), hlevel 11 0 (by decide) (by decide),
    hlevel 12 1 (by decide) (by decide), hlevel 25 3 (by decide) (by decide)]
  rfl

end Swell

import Mathlib.Data.List.Basic
import Swell.Text.Digit

/-!
# Decimal digits and their value

Main statements: digits are zeros and then the digits that their value is written with, and the
digits of a positive number start with no zero.
-/
namespace Swell.Text

theorem decimalValue_eq_ofDigitChars (ds : List Char) :
    decimalValue ds = Nat.ofDigitChars 10 ds 0 := by
  rw [decimalValue, valueOf, Nat.ofDigitChars_eq_foldl, List.foldl_map]
  simp only [digitValue, Nat.mul_comm]

theorem digitChar_digitValue {c : Char} (hc : c.isDigit = true) :
    digitValue c < 10 ∧ Nat.digitChar (digitValue c) = c := by
  have hlow : 48 ≤ c.toNat := by
    simp only [Char.isDigit, Bool.and_eq_true, decide_eq_true_eq] at hc
    exact hc.1
  have hhigh : c.toNat ≤ 57 := by
    simp only [Char.isDigit, Bool.and_eq_true, decide_eq_true_eq] at hc
    exact hc.2
  have hvalue : digitValue c = c.toNat - 48 := rfl
  have hlt : digitValue c < 10 := by omega
  refine ⟨hlt, Char.toNat_inj.1 ?_⟩
  rw [Nat.toNat_digitChar_of_lt_ten hlt, hvalue]
  omega

/-- Digits behind those of a positive number are the last digits of the number that they make. -/
theorem toDigits_append {ds : List Char} (hds : ∀ c ∈ ds, c.isDigit = true) {n : Nat}
    (hn : 0 < n) : Nat.toDigits 10 n ++ ds = Nat.toDigits 10 (Nat.ofDigitChars 10 ds n) := by
  induction ds generalizing n with
  | nil => rw [List.append_nil, Nat.ofDigitChars_nil]
  | cons c ds ih =>
    obtain ⟨hc, hds⟩ := List.forall_mem_cons.1 hds
    obtain ⟨hlt, hchar⟩ := digitChar_digitValue hc
    have hone : Nat.toDigits 10 n ++ [c] = Nat.toDigits 10 (10 * n + digitValue c) := by
      rw [← Nat.toDigits_append_toDigits (by decide) hn hlt, Nat.toDigits_of_lt_base hlt, hchar]
    calc Nat.toDigits 10 n ++ c :: ds
        = (Nat.toDigits 10 n ++ [c]) ++ ds := by simp
      _ = Nat.toDigits 10 (10 * n + digitValue c) ++ ds := by rw [hone]
      _ = Nat.toDigits 10 (Nat.ofDigitChars 10 ds (10 * n + digitValue c)) :=
        ih hds (Nat.add_pos_left (Nat.mul_pos (by decide) hn) _)

/-- Digits with a positive value are zeros and then the digits that the value is written with. -/
theorem exists_zeros_append {ds : List Char} (hds : ∀ c ∈ ds, c.isDigit = true)
    (hpos : 0 < decimalValue ds) :
    ∃ zeros, ds = List.replicate zeros '0' ++ Nat.toDigits 10 (decimalValue ds) := by
  rw [decimalValue_eq_ofDigitChars] at hpos ⊢
  induction ds with
  | nil => simp at hpos
  | cons c ds ih =>
    obtain ⟨hc, hds⟩ := List.forall_mem_cons.1 hds
    obtain ⟨hlt, hchar⟩ := digitChar_digitValue hc
    have hvalue : Nat.ofDigitChars 10 (c :: ds) 0 = Nat.ofDigitChars 10 ds (digitValue c) := by
      rw [Nat.ofDigitChars_cons, Nat.mul_zero, Nat.zero_add]
      rfl
    rw [hvalue] at hpos ⊢
    rcases Nat.eq_zero_or_pos (digitValue c) with hzero | hne
    · rw [hzero] at hpos ⊢
      obtain ⟨zeros, hzeros⟩ := ih hds hpos
      have hc0 : c = '0' := by rw [← hchar, hzero]; rfl
      refine ⟨zeros + 1, ?_⟩
      rw [List.replicate_succ, List.cons_append, ← hzeros, hc0]
    · refine ⟨0, ?_⟩
      rw [← toDigits_append hds hne, Nat.toDigits_of_lt_base hlt, hchar]
      rfl

theorem decimalValue_zeros_append (zeros n : Nat) :
    decimalValue (List.replicate zeros '0' ++ Nat.toDigits 10 n) = n := by
  have hzeros : Nat.ofDigitChars 10 (List.replicate zeros '0') 0 = 0 := by
    induction zeros with
    | zero => rfl
    | succ zeros ih => rw [List.replicate_succ, Nat.ofDigitChars_cons]; exact ih
  rw [decimalValue_eq_ofDigitChars, Nat.ofDigitChars_append, hzeros, Nat.ofDigitChars_ten_toDigits]

theorem head?_toDigits_ne_zero {n : Nat} (hn : 0 < n) : (Nat.toDigits 10 n).head? ≠ some '0' := by
  intro hhead
  obtain ⟨ds, hds⟩ := List.head?_eq_some_iff.1 hhead
  have hdigits : ∀ c ∈ ds, c.isDigit = true := fun c hc =>
    Nat.isDigit_of_mem_toDigits (by decide) (by decide) (hds ▸ List.mem_cons_of_mem _ hc)
  have hvalue : decimalValue ds = n := by
    rw [decimalValue_eq_ofDigitChars, ← Nat.ofDigitChars_ten_toDigits (n := n), hds]
    rfl
  obtain ⟨zeros, hzeros⟩ := exists_zeros_append hdigits (hvalue ▸ hn)
  rw [hvalue, hds] at hzeros
  have hlength := congrArg List.length hzeros
  simp at hlength
  omega

end Swell.Text

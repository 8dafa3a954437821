import Mathlib.Data.List.Chain
import Swell.Signal.Classifier

/-!
# Searches in lists that ascend

Main statements: where the values that satisfy a condition come first, a value satisfies it exactly
if it stands before their number; and a search by halves finds this number.
-/
namespace Swell

variable {α : Type} {p : α → Bool} {xs : List α}

theorem forall_mem_zip_tail_iff {R : α → α → Prop} (xs : List α) :
    (∀ p ∈ xs.zip xs.tail, R p.1 p.2) ↔ xs.IsChain R := by
  induction xs with
  | nil => simp
  | cons x xs ih =>
    cases xs with
    | nil => simp
    | cons y xs =>
      rw [List.isChain_cons_cons, ← ih]
      simp

/-- The values that satisfy a condition stand before all others. -/
def HoldFirst (p : α → Bool) (xs : List α) : Prop :=
  xs.Pairwise fun a b => p b = true → p a = true

namespace HoldFirst

theorem of_cons_of_not {x : α} (h : HoldFirst p (x :: xs)) (hx : ¬p x = true) :
    ∀ y ∈ x :: xs, ¬p y = true := by
  rw [List.forall_mem_cons]
  exact ⟨hx, fun y hy hpy => hx ((List.pairwise_cons.1 h).1 y hy hpy)⟩

theorem lt_countP_iff (h : HoldFirst p xs) {i : Nat} {x : α} (hx : xs[i]? = some x) :
    i < xs.countP p ↔ p x = true := by
  induction xs generalizing i with
  | nil => simp at hx
  | cons first xs ih =>
    by_cases hfirst : p first = true
    · rw [List.countP_cons_of_pos hfirst]
      cases i with
      | zero =>
        obtain rfl : first = x := by simpa using hx
        simp [hfirst]
      | succ i => rw [Nat.succ_lt_succ_iff, ih (List.pairwise_cons.1 h).2 (by simpa using hx)]
    · have hall := h.of_cons_of_not hfirst
      rw [List.countP_eq_zero.2 hall]
      simpa using hall x (List.mem_of_getElem? hx)

theorem countP_take (h : HoldFirst p xs) (n : Nat) :
    (xs.take n).countP p = min n (xs.countP p) := by
  induction xs generalizing n with
  | nil => simp
  | cons first xs ih =>
    cases n with
    | zero => simp
    | succ n =>
      rw [List.take_succ_cons]
      by_cases hfirst : p first = true
      · rw [List.countP_cons_of_pos hfirst, List.countP_cons_of_pos hfirst,
          ih (List.pairwise_cons.1 h).2, Nat.succ_min_succ]
      · have hall := h.of_cons_of_not hfirst
        have htake : ∀ y ∈ first :: xs.take n, ¬p y = true := fun y hy =>
          hall y (List.cons_subset_cons first (List.take_subset n xs) hy)
        rw [List.countP_eq_zero.2 hall, List.countP_eq_zero.2 htake, Nat.min_zero]

theorem countP_drop (h : HoldFirst p xs) (n : Nat) :
    (xs.drop n).countP p = xs.countP p - n := by
  have htake := h.countP_take n
  have hsplit : xs.countP p = (xs.take n).countP p + (xs.drop n).countP p := by
    rw [← List.countP_append, List.take_append_drop]
  omega

end HoldFirst

/-- A search by halves counts the values that satisfy a condition, where these come first. -/
theorem countByHalves_eq_countP (h : HoldFirst p xs) : countByHalves p xs = xs.countP p := by
  fun_induction countByHalves p xs with
  | case1 => rfl
  | case2 x => cases hx : p x <;> simp [hx]
  | case3 x y rest xs half hmid ih =>
    -- the value in the middle satisfies the condition, and so does the half before it
    rw [List.head?_drop, Option.any_eq_true] at hmid
    obtain ⟨mid, hget, hp⟩ := hmid
    have hhalf : half < xs.countP p := (h.lt_countP_iff hget).2 hp
    rw [ih h.drop, h.countP_drop]
    change half + (xs.countP p - half) = xs.countP p
    omega
  | case4 x y rest xs half hmid ih =>
    have hlength : 2 ≤ xs.length := by simp [xs]
    have hget : xs[half]? = some xs[half] := List.getElem?_eq_getElem (by omega)
    have hhalf : ¬half < xs.countP p := by
      rw [List.head?_drop, hget] at hmid
      rwa [h.lt_countP_iff hget]
    rw [ih h.take, h.countP_take]
    change min (xs.length - half) (xs.countP p) = xs.countP p
    omega

end Swell

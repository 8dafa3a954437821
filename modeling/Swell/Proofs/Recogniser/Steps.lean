import Swell.Recogniser

/-!
# Steps up to the first failure

Main statements: a number of steps can be cut in two, and is a fold over as many steps; the steps
that are made are all of them, or those up to the one that fails; and a log that grows by as many
entries with each step grows by that many for each step made.
-/
namespace Swell

variable {ε α : Type} (step : α → Except ε α)

theorem stepTimes_succ (n : Nat) (a : α) :
    stepTimes step (n + 1) a = step a >>= stepTimes step n := by
  rw [stepTimes]
  cases step a <;> rfl

theorem stepTimes_add (m n : Nat) (a : α) :
    stepTimes step (m + n) a = stepTimes step m a >>= stepTimes step n := by
  induction m generalizing a with
  | zero =>
    rw [Nat.zero_add]
    rfl
  | succ m ih =>
    rw [Nat.succ_add, stepTimes_succ, stepTimes_succ]
    cases step a with
    | error e => rfl
    | ok b => exact ih b

theorem stepTimes_eq_foldlM (n : Nat) (a : α) :
    stepTimes step n a = (List.replicate n step).foldlM (fun a f => f a) a := by
  induction n generalizing a with
  | zero => rfl
  | succ n ih =>
    rw [stepTimes_succ, List.replicate_succ, List.foldlM_cons, funext ih]

/-- How many steps are made. One that fails is made, and is the last. -/
def stepsMade : Nat → α → Nat
  | 0, _ => 0
  | n + 1, a =>
    match step a with
    | .ok b => stepsMade n b + 1
    | .error _ => 1

variable {step} {a b : α}

theorem stepsMade_succ_of_ok (h : step a = .ok b) (n : Nat) :
    stepsMade step (n + 1) a = stepsMade step n b + 1 := by
  simp only [stepsMade, h]

theorem stepsMade_of_ok {n : Nat} (h : stepTimes step n a = .ok b) : stepsMade step n a = n := by
  induction n generalizing a with
  | zero => rfl
  | succ n ih =>
    rw [stepTimes] at h
    split at h
    · next next hnext => rw [stepsMade_succ_of_ok hnext, ih h]
    · cases h

/-- The steps made are those that succeed and the one behind them that fails. -/
theorem stepsMade_of_error {j n : Nat} (hj : j < n) (h : stepTimes step j a = .ok b) {e : ε}
    (hb : step b = .error e) : stepsMade step n a = j + 1 := by
  induction j generalizing n a with
  | zero =>
    obtain ⟨n, rfl⟩ := Nat.exists_eq_add_of_lt hj
    obtain rfl : a = b := Except.ok.inj h
    rw [stepsMade, hb]
  | succ j ih =>
    obtain ⟨n, rfl⟩ := Nat.exists_eq_add_of_lt hj
    rw [stepTimes] at h
    split at h
    · next next hnext => rw [stepsMade_succ_of_ok hnext, ih (by omega) h]
    · cases h

/-- Where each step adds so many entries for a meter to a log, the steps made add so many each. -/
theorem count_stepTimesLogged {logged : α → MeterLog → Except ε α × MeterLog} {meter k : Nat}
    (hstep : ∀ a log, (logged a log).1 = step a)
    (hcount : ∀ a log, (logged a log).2.count meter = log.count meter + k) (n : Nat) (a : α)
    (log : MeterLog) :
    (stepTimesLogged logged n a log).2.count meter =
      log.count meter + stepsMade step n a * k := by
  induction n generalizing a log with
  | zero => simp [stepTimesLogged, stepsMade]
  | succ n ih =>
    have hone := hstep a log
    have hadded := hcount a log
    rw [stepTimesLogged, stepsMade, ← hone]
    rcases hl : logged a log with ⟨result, log'⟩
    rw [hl] at hadded
    cases result with
    | error e => simpa using hadded
    | ok b =>
      simp only at hadded ⊢
      rw [ih b log', hadded, Nat.succ_mul]
      omega

end Swell

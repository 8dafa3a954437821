import Swell.Proofs.Pipeline.Calls

/-!
# What a run of the stages leaves behind

Stages may be replaced by any others, whose collaborators act on a world of any kind. Main
statements: one more call keeps the account of what was called, what was returned, which
collaborators ran and what became of the world; and the calls in turn end either with a value from
every stage, or at the first stage that returns a fault.
-/
namespace Swell

variable {σ : Type}

namespace Stages

variable (s : Stages (StateM σ)) (vessel wave : Slot)

/-- Running the logged collaborators once more takes one world to the other. -/
def Replays : ExecutionLog → σ → σ → Prop
  | [], world, final => world = final
  | e :: log, world, final => ∃ next,
      ((s.stageAt e.place).run e.values).run world = (e.given, next) ∧ Replays log next final

theorem replays_append_single_iff (log : ExecutionLog) (e : Execution) (world final : σ) :
    s.Replays (log ++ [e]) world final ↔ ∃ next, s.Replays log world next ∧
      ((s.stageAt e.place).run e.values).run next = (e.given, final) := by
  induction log generalizing world with
  | nil => simp [Replays]
  | cons first log ih =>
    simp only [List.cons_append, Replays, ih]
    constructor
    · rintro ⟨next, hfirst, last, hlog, hlast⟩
      exact ⟨last, ⟨next, hfirst, hlog⟩, hlast⟩
    · rintro ⟨last, ⟨next, hfirst, hlog⟩, hlast⟩
      exact ⟨next, hfirst, last, hlog, hlast⟩

def argumentsAt (returned : Place → Slot) (p : Place) : Except Fault (List Value) :=
  Stage.arguments (s.stageAt p).inputs (p.slots vessel wave returned)

/-- Where a run stands: the stages that were called, what they returned, what became of the world
and which collaborators ran. -/
structure Account (start : σ) (called : List Place) (returned : Place → Slot) (world : σ)
    (log : ExecutionLog) : Prop where
  called_iff : ∀ p, p ∈ called ↔ (returned p).isSome = true
  /-- A slot that was returned is what some call of the stage returns. -/
  result : ∀ p ∈ called, ∃ result before after further,
    (s.stageAt p).Calls p (p.slots vessel wave returned) before result after further ∧
      returned p = some result
  /-- The collaborators that ran are those whose stages were called and accepted the slots. -/
  places : log.map Execution.place =
    called.filter fun p => (s.argumentsAt vessel wave returned p).isOk
  ran : ∀ e ∈ log, s.argumentsAt vessel wave returned e.place = .ok e.values ∧
    returned e.place = some (e.given.validate (s.stageAt e.place).output)
  replays : s.Replays log start world

variable {s vessel wave} {start : σ} {returned : Place → Slot} {world : σ} {log : ExecutionLog}
  {p : Place}

theorem account_start (world : σ) : s.Account vessel wave world [] (fun _ => none) world [] := by
  constructor <;> simp [Replays]

theorem argumentsAt_update {q : Place} (slot : Slot) (hq : q = p ∨ q ∈ p.earlier) :
    s.argumentsAt vessel wave (Function.update returned p slot) q =
      s.argumentsAt vessel wave returned q := by
  rw [argumentsAt, argumentsAt, Place.slots_update vessel wave returned slot hq]

theorem Account.mem_called {called : List Place}
    (h : s.Account vessel wave start called returned world log) {e : Execution} (he : e ∈ log) :
    e.place ∈ called := by
  have hmem : e.place ∈ log.map Execution.place := List.mem_map_of_mem he
  rw [h.places] at hmem
  exact (List.mem_filter.1 hmem).1

theorem Account.extend (h : s.Account vessel wave start p.earlier returned world log)
    {result : Except Fault Value} {next : σ} {further : ExecutionLog}
    (hcalls : (s.stageAt p).Calls p (p.slots vessel wave returned) world result next further) :
    s.Account vessel wave start (p.earlier ++ [p]) (Function.update returned p (some result)) next
      (log ++ further) := by
  have hnew : Function.update returned p (some result) p = some result :=
    Function.update_self p _ _
  constructor
  case called_iff =>
    intro q
    by_cases hq : q = p
    · simp [hq]
    · simp [hq, h.called_iff q]
  case result =>
    intro q hq
    rcases List.mem_append.1 hq with hq | hq
    · rw [Place.slots_update _ _ _ _ (.inr hq), Place.update_of_mem_earlier _ _ hq]
      exact h.result q hq
    · obtain rfl := List.mem_singleton.1 hq
      rw [Place.slots_update _ _ _ _ (.inl rfl), hnew]
      exact ⟨result, world, next, further, hcalls, rfl⟩
  case places =>
    have hbefore : p.earlier.filter (fun q => (s.argumentsAt vessel wave
        (Function.update returned p (some result)) q).isOk) = log.map Execution.place := by
      rw [h.places]
      apply List.filter_congr
      intro q hq
      rw [argumentsAt_update _ (.inr hq)]
    rw [List.map_append, List.filter_append, hbefore, List.filter_cons,
      argumentsAt_update _ (.inl rfl)]
    cases hcalls with
    | refused hrefused =>
      rw [argumentsAt, hrefused]
      rfl
    | ran haccepted hrun =>
      rw [argumentsAt, haccepted]
      rfl
  case ran =>
    intro e he
    rcases List.mem_append.1 he with he | he
    · have hplace := h.mem_called he
      rw [argumentsAt_update _ (.inr hplace), Place.update_of_mem_earlier _ _ hplace]
      exact h.ran e he
    · cases hcalls with
      | refused hrefused => cases he
      | ran haccepted hrun =>
        obtain rfl := List.mem_singleton.1 he
        exact ⟨(argumentsAt_update _ (.inl rfl)).trans haccepted, hnew⟩
  case replays =>
    cases hcalls with
    | refused hrefused =>
      rw [List.append_nil]
      exact h.replays
    | ran haccepted hrun =>
      rw [replays_append_single_iff]
      exact ⟨world, h.replays, hrun⟩

/-- How the calls end, and with which accounts: all stages return values, or one returns a fault
behind others that return values. -/
inductive Ends (s : Stages (StateM σ)) (vessel wave : Slot) (start : σ) :
    Except Fault (Place → Slot) → (Place → Slot) → σ → ExecutionLog → Prop where
  | completed {returned : Place → Slot} {world : σ} {log : ExecutionLog}
    (h : s.Account vessel wave start Place.all returned world log)
    (hvalues : ∀ p, ∃ value, returned p = some (.ok value)) :
    Ends s vessel wave start (.ok returned) returned world log
  | stopped {returned : Place → Slot} {world : σ} {log : ExecutionLog} {p : Place} {fault : Fault}
    (h : s.Account vessel wave start (p.earlier ++ [p]) returned world log)
    (hvalues : ∀ q ∈ p.earlier, ∃ value, returned q = some (.ok value))
    (hfault : returned p = some (.error fault)) :
    Ends s vessel wave start (.error fault) returned world log

/-- The calls that are left end in one of the two ways, and notes change nothing about them. -/
theorem exists_ends {done left : List Place} (hall : Place.all = done ++ left)
    (h : s.Account vessel wave start done returned world log)
    (hvalues : ∀ p ∈ done, ∃ value, returned p = some (.ok value)) :
    ∃ result returned' final log', s.Ends vessel wave start result returned' final log' ∧
      (callInTurn s.stageAt vessel wave left returned).run.run world = (result, final) ∧
      (callInTurn (fun p => (s.stageAt p).noted p) vessel wave left returned).run.run (world, log) =
        (result, final, log') := by
  -- on the stages that are left; the account of those done carries it from call to call
  induction left generalizing done returned world log with
  | nil =>
    obtain rfl : Place.all = done := by simpa using hall
    exact ⟨_, _, _, _, .completed h fun p => hvalues p p.mem_all, rfl, rfl⟩
  | cons p left ih =>
    obtain rfl := Place.earlier_eq_of_all hall
    obtain ⟨result, next, further, hcalls⟩ :=
      (s.stageAt p).exists_calls p (p.slots vessel wave returned) world
    have hextended := h.extend hcalls
    rw [callInTurn, callInTurn]
    have hkept : ∀ q ∈ p.earlier, ∃ value,
        Function.update returned p (some result) q = some (.ok value) := by
      intro q hq
      rw [Place.update_of_mem_earlier _ _ hq]
      exact hvalues q hq
    cases result with
    | error fault =>
      rw [run_bind_of_error _ hcalls.call_eq, run_bind_of_error _ (hcalls.noted_call_eq log)]
      exact ⟨_, _, _, _, .stopped hextended hkept (Function.update_self p _ _), rfl, rfl⟩
    | ok value =>
      rw [run_bind_of_ok _ hcalls.call_eq, run_bind_of_ok _ (hcalls.noted_call_eq log)]
      refine ih (by rw [hall, List.append_assoc, List.singleton_append]) hextended ?_
      intro q hq
      rcases List.mem_append.1 hq with hq | hq
      · exact hkept q hq
      · obtain rfl := List.mem_singleton.1 hq
        exact ⟨value, Function.update_self q _ _⟩

end Stages
end Swell

import Mathlib.Data.List.TakeWhile
import Mathlib.Logic.Function.Basic
import Swell.Pipeline
import Swell.Proofs.Result

/-!
# The pipeline as calls in turn

Each stage of the pipeline stands at a place and is called on what earlier stages have returned.
Main statements: a run of the pipeline is the same as calling the stages at all places in turn; and
what a call does to the world that collaborators act on, and to a log of the collaborators that ran.
-/
namespace Swell

/-- The places of the stages, the reading included. -/
inductive Place where
  | limits
  | grammar
  | signal
  | sentence
  | reading
  deriving Repr, DecidableEq

namespace Place

def all : List Place :=
  [.limits, .grammar, .signal, .sentence, .reading]

def earlier (p : Place) : List Place :=
  all.takeWhile (· != p)

/-- The slots that the stage at a place is called on. -/
def slots (vessel wave : Slot) (returned : Place → Slot) : Place → List Slot
  | .limits => [vessel]
  | .grammar => [returned .limits]
  | .signal => [wave]
  | .sentence => [returned .signal]
  | .reading => [returned .grammar, returned .sentence]

theorem mem_all (p : Place) : p ∈ all := by
  cases p <;> decide

theorem not_mem_earlier {p q : Place} (h : q = p ∨ q ∈ p.earlier) : p ∉ q.earlier := by
  revert h
  cases p <;> cases q <;> decide

theorem earlier_append (p : Place) : p.earlier ++ [p] <+: all := by
  cases p <;> decide

theorem earlier_cases (p q : Place) : p = q ∨ p ∈ q.earlier ∨ q ∈ p.earlier := by
  cases p <;> cases q <;> decide

theorem eq_reading_or_earlier (p : Place) : p = .reading ∨ p ∈ reading.earlier := by
  cases p <;> decide

theorem eq_sentence_or_earlier {p : Place} (h : p ∈ reading.earlier) :
    p = .sentence ∨ p ∈ sentence.earlier := by
  revert h
  cases p <;> decide

theorem mem_earlier_trans {p q r : Place} (hp : p ∈ q.earlier) (hq : q ∈ r.earlier) :
    p ∈ r.earlier := by
  revert hp hq
  cases p <;> cases q <;> cases r <;> decide

theorem earlier_eq_of_all {done left : List Place} {p : Place} (h : all = done ++ p :: left) :
    p.earlier = done := by
  have hnodup : all.Nodup := by decide
  have hdone : ∀ q ∈ done, (q != p) = true := by
    rw [h, List.nodup_append] at hnodup
    intro q hq
    simpa using hnodup.2.2 q hq p List.mem_cons_self
  rw [earlier, h, List.takeWhile_append_of_pos hdone, List.takeWhile_cons_of_neg (by simp),
    List.append_nil]

theorem slots_congr (vessel wave : Slot) {returned returned' : Place → Slot} {p : Place}
    (h : ∀ q ∈ p.earlier, returned q = returned' q) :
    slots vessel wave returned p = slots vessel wave returned' p := by
  cases p with
  | limits => rfl
  | grammar => simp [slots, h .limits (by decide)]
  | signal => rfl
  | sentence => simp [slots, h .signal (by decide)]
  | reading => simp [slots, h .grammar (by decide), h .sentence (by decide)]

variable (vessel wave : Slot) (returned : Place → Slot) (slot : Slot) {p q : Place}

theorem update_of_mem_earlier (hq : q ∈ p.earlier) :
    Function.update returned p slot q = returned q :=
  Function.update_of_ne (ne_of_mem_of_not_mem hq (not_mem_earlier (.inl rfl))) _ _

theorem slots_update (hq : q = p ∨ q ∈ p.earlier) :
    q.slots vessel wave (Function.update returned p slot) = q.slots vessel wave returned := by
  apply slots_congr
  intro r hr
  exact Function.update_of_ne (ne_of_mem_of_not_mem hr (not_mem_earlier hq)) _ _

end Place

section Turns

variable {m : Type → Type} [Monad m]

/-- Calls the stages at places in turn. What they return is kept for those behind them; the first
fault ends it. -/
def callInTurn (stages : Place → Stage m) (vessel wave : Slot) :
    List Place → (Place → Slot) → ExceptT Fault m (Place → Slot)
  | [], returned => pure returned
  | p :: left, returned => do
    let value ← ExceptT.mk ((stages p).call (p.slots vessel wave returned))
    callInTurn stages vessel wave left (Function.update returned p (some (.ok value)))

def lastReading (returned : Place → Slot) : Except Fault Reading :=
  match returned .reading with
  | none => .error (.contract (.missingInput .parsed))
  | some (.error fault) => .error fault
  | some (.ok value) => value.extract Reading

/-- Calls the stages at all places, and takes the reading out of what the last one returns. -/
def readInTurn (stages : Place → Stage m) (vessel wave : Slot) : ExceptT Fault m Reading := do
  let returned ← callInTurn stages vessel wave Place.all fun _ => none
  ExceptT.mk (pure (lastReading returned))

def Stages.stageAt (s : Stages m) : Place → Stage m
  | .limits => s.limits
  | .grammar => s.grammar
  | .signal => s.signal
  | .sentence => s.sentence
  | .reading => reading

theorem Stages.run_eq_readInTurn [LawfulMonad m] (s : Stages m) (vessel wave : Slot) :
    s.run vessel wave = readInTurn s.stageAt vessel wave := by
  simp only [readInTurn, Place.all, callInTurn, bind_assoc, pure_bind]
  rfl

end Turns

namespace Stage

theorem arguments_cons_eq_ok_iff (tag : Tag) (tags : List Tag) (slots : List Slot)
    (values : List Value) :
    arguments (tag :: tags) slots = .ok values ↔ ∃ v rest,
      (slots.head?.getD none).validate tag = .ok v ∧ arguments tags slots.tail = .ok rest ∧
        values = v :: rest := by
  rw [arguments]
  cases (slots.head?.getD none).validate tag with
  | error fault => simp
  | ok v => cases arguments tags slots.tail <;> simp [eq_comm]

/-- What passes the contract of a stage: its arguments are the values in its first slots, and each
has the tag that is declared for its position. -/
theorem arguments_eq_ok_iff (tags : List Tag) (slots : List Slot) (values : List Value) :
    arguments tags slots = .ok values ↔
      slots.take tags.length = values.map (fun v => some (.ok v)) ∧
        values.map Value.tag? = tags.map some := by
  induction tags generalizing slots values with
  | nil => cases values <;> simp [arguments]
  | cons tag tags ih =>
    rw [arguments_cons_eq_ok_iff]
    simp only [Slot.validate_eq_ok_iff, ih]
    cases slots with
    | nil => cases values <;> simp
    | cons slot slots =>
      constructor
      · rintro ⟨v, rest, ⟨hslot, htag⟩, ⟨hslots, htags⟩, rfl⟩
        simp only [List.head?_cons, Option.getD_some] at hslot
        simp only [List.tail_cons] at hslots
        simp [hslot, htag, hslots, htags]
      · rintro ⟨hslots, htags⟩
        cases values with
        | nil => simp at hslots
        | cons v rest =>
          simp only [List.length_cons, List.take_succ_cons, List.map_cons, List.cons.injEq]
            at hslots htags
          exact ⟨v, rest, ⟨hslots.1, htags.1⟩, ⟨hslots.2, htags.2⟩, rfl⟩

/-- A fault that comes in the first slot is the fault of the call. -/
theorem arguments_of_fault {tags : List Tag} {slots : List Slot} {fault : Fault} (htags : tags ≠ [])
    (h : slots.head? = some (some (.error fault))) : arguments tags slots = .error fault := by
  cases tags with
  | nil => exact absurd rfl htags
  | cons tag tags => simp [arguments, h, Slot.validate]

end Stage

theorem Stage.call_of_accepted {m : Type → Type} [Monad m] {s : Stage m} {slots : List Slot}
    {values : List Value} (h : arguments s.inputs slots = .ok values) :
    s.call slots = s.run values >>= fun slot => pure (slot.validate s.output) := by
  rw [call, h]

/-- One run of a collaborator: where, on which values, and what it gave. -/
structure Execution where
  place : Place
  values : List Value
  given : Slot

abbrev ExecutionLog := List Execution

variable {σ : Type}

/-- A stage whose collaborator notes each of its runs in a log. -/
def Stage.noted (p : Place) (s : Stage (StateM σ)) : Stage (StateM (σ × ExecutionLog)) where
  name := s.name
  inputs := s.inputs
  output := s.output
  run values := fun (world, log) =>
    let (given, next) := (s.run values).run world
    (given, next, log ++ [⟨p, values, given⟩])

namespace Stage

variable (s : Stage (StateM σ)) (p : Place) (slots : List Slot) (world : σ)

/-- What a call returns, what it makes of the world, and the runs of the collaborator that it adds
to a log. -/
inductive Calls : Except Fault Value → σ → ExecutionLog → Prop where
  /-- The contract refuses the slots, and the collaborator does not run. -/
  | refused {fault : Fault} (h : arguments s.inputs slots = .error fault) :
    Calls (.error fault) world []
  /-- The collaborator runs on the values in the slots. -/
  | ran {values : List Value} {given : Slot} {next : σ} (h : arguments s.inputs slots = .ok values)
    (hrun : (s.run values).run world = (given, next)) :
    Calls (given.validate s.output) next [⟨p, values, given⟩]

theorem exists_calls : ∃ result next further, s.Calls p slots world result next further := by
  cases h : arguments s.inputs slots with
  | error fault => exact ⟨_, _, _, .refused h⟩
  | ok values => exact ⟨_, _, _, .ran h rfl⟩

variable {s p slots world} {result : Except Fault Value} {next : σ} {further : ExecutionLog}

theorem Calls.call_eq (h : s.Calls p slots world result next further) :
    (s.call slots).run world = (result, next) := by
  cases h with
  | refused h =>
    rw [call_of_refused s slots _ h]
    rfl
  | @ran values given next h hrun =>
    rw [call_of_accepted h, StateT.run_bind, hrun]
    rfl

/-- Notes change nothing about a call. -/
theorem Calls.noted_call_eq (h : s.Calls p slots world result next further) (log : ExecutionLog) :
    ((s.noted p).call slots).run (world, log) = (result, next, log ++ further) := by
  cases h with
  | refused h =>
    rw [call_of_refused (s.noted p) slots _ h, List.append_nil]
    rfl
  | @ran values given next h hrun =>
    have haccepted : arguments (s.noted p).inputs slots = .ok values := h
    have hnote : ((s.noted p).run values).run (world, log) =
        (given, next, log ++ [⟨p, values, given⟩]) := by
      change (let (given, next) := (s.run values).run world;
        (given, next, log ++ [Execution.mk p values given])) = _
      rw [hrun]
    rw [call_of_accepted haccepted, StateT.run_bind, hnote]
    rfl

end Stage

section Steps

variable {τ α β : Type} {step : StateM τ (Except Fault α)}
  (next : α → ExceptT Fault (StateM τ) β) {world after : τ}

theorem run_bind_of_ok {a : α} (h : step.run world = (.ok a, after)) :
    (ExceptT.mk step >>= next).run.run world = (next a).run.run after := by
  change (step >>= ExceptT.bindCont next).run world = _
  rw [StateT.run_bind, h]
  rfl

theorem run_bind_of_error {fault : Fault} (h : step.run world = (.error fault, after)) :
    (ExceptT.mk step >>= next).run.run world = (.error fault, after) := by
  change (step >>= ExceptT.bindCont next).run world = _
  rw [StateT.run_bind, h]
  rfl

/-- The outcome of all calls is the reading in what they return, or the fault that ended them. -/
theorem run_readInTurn (stages : Place → Stage (StateM τ)) (vessel wave : Slot)
    {result : Except Fault (Place → Slot)}
    (h : (callInTurn stages vessel wave Place.all fun _ => none).run.run world = (result, after)) :
    (readInTurn stages vessel wave).run.run world = (result >>= lastReading, after) := by
  cases result with
  | error fault => exact run_bind_of_error _ h
  | ok returned => exact run_bind_of_ok _ h

end Steps
end Swell

import Swell.Descriptor
import Swell.History
import Swell.ParseFault
import Swell.Pattern
import Swell.Pattern.Engine.Standard

/-!
# Recognisers

A recogniser reads on from the end of a history: a token takes one atom, and sequences, choices
and repetitions combine what their parts do. A meter counts how often the recogniser inside it is
asked. Main statements: a meter changes no result, and asking with a log gives the result that
asking without one gives.
-/
namespace Swell
open Pattern (Engine)

/-- A recogniser of a single atom: the pattern that the atom has to match, and what messages say
was expected. -/
structure Token where
  pattern : Pattern
  shown : Descriptor

def History.refusal (h : History) (expected : List Descriptor) : ParseFault :=
  match h.last? with
  | none => .structural .emptyHistory
  | some s =>
    match s.head? with
    | none => .structural .nothingRemaining
    | some atom => .mismatch s.position expected atom

namespace Token

def ofPattern (p : Pattern) : Token :=
  ⟨p, .pattern p.source⟩

def read [Engine] (source : String) : Except UnreadablePattern Token :=
  (Pattern.read source).map ofPattern

/-- The token of an atom that consists of several parts. -/
def compound [Engine] (parts : List Pattern) : Except UnreadablePattern Token :=
  (Pattern.join parts).map fun p =>
    ⟨p, .sequence (parts.map fun part => .pattern part.source)⟩

def take [Engine] (t : Token) (h : History) : Except ParseFault History :=
  match h.last? with
  | none => .error (.structural .emptyHistory)
  | some s =>
    match s.remaining with
    | [] => .error (.structural .nothingRemaining)
    | atom :: rest =>
      if t.pattern.accepts atom then .ok (h.push ⟨rest, some atom, s.position + 1⟩)
      else .error (.mismatch s.position [t.shown] atom)

theorem take_eq_ok_iff [Engine] (t : Token) (h next : History) :
    t.take h = .ok next ↔
      ∃ s s', h.last? = some s ∧ s.head?.any t.pattern.accepts = true ∧ s.advance? = some s' ∧
        next = h.push s' := by
  unfold take
  cases hs : h.last? with
  | none => simp
  | some s =>
    rcases s with ⟨remaining, taken, position⟩
    cases remaining with
    | nil => simp [State.head?]
    | cons atom rest =>
      simp only [State.head?, State.advance?, Option.some.injEq]
      by_cases ha : t.pattern.accepts atom = true
      · constructor
        · intro e
          simp only [ha, if_true, Except.ok.injEq] at e
          exact ⟨_, _, rfl, by simpa using ha, rfl, e.symm⟩
        · rintro ⟨s, s', rfl, -, hs', rfl⟩
          cases hs'
          simp [ha]
      · simp only [ha]
        constructor
        · intro e
          simp at e
        · rintro ⟨s, s', rfl, hany, -⟩
          simp [ha] at hany

end Token

inductive Recogniser where
  | token (t : Token)
  /-- All items, one after the other. -/
  | sequence (items : List Recogniser)
  /-- The first item that reads on. -/
  | choice (items : List Recogniser)
  | repeated (count : Nat) (unit : Recogniser)
  /-- Does what the recogniser inside does, and counts as one question for the meter. -/
  | metered (meter : Nat) (inner : Recogniser)

def stepTimes {ε α : Type} (step : α → Except ε α) : Nat → α → Except ε α
  | 0, a => .ok a
  | n + 1, a =>
    match step a with
    | .ok b => stepTimes step n b
    | .error e => .error e

/-- The meters passed so far, the last first. -/
abbrev MeterLog := List Nat

def stepTimesLogged {ε α : Type} (step : α → MeterLog → Except ε α × MeterLog) :
    Nat → α → MeterLog → Except ε α × MeterLog
  | 0, a, log => (.ok a, log)
  | n + 1, a, log =>
    match step a log with
    | (.ok b, log) => stepTimesLogged step n b log
    | (.error e, log) => (.error e, log)

namespace Recogniser

mutual

def descriptor : Recogniser → Descriptor
  | .token t => t.shown
  | .sequence items => .sequence (descriptors items)
  | .choice items => .oneOf (descriptors items)
  | .repeated count unit => .sequence (List.replicate count unit.descriptor)
  | .metered _ inner => inner.descriptor

def descriptors : List Recogniser → List Descriptor
  | [] => []
  | r :: rs => r.descriptor :: descriptors rs

end

mutual

/-- Reads on from the end of a history. A choice passes over the items that do not fit. It does
not pass over a structural fault, which the other items would meet as well. -/
def parse : Recogniser → History → Except ParseFault History
  | .token t, h => t.take h
  | .sequence items, h => parseAll items h
  | .choice items, h =>
    match parseFirst items h with
    | some result => result
    | none => .error (h.refusal (descriptors items))
  | .repeated count unit, h => stepTimes (fun h => unit.parse h) count h
  | .metered _ inner, h => inner.parse h

def parseAll : List Recogniser → History → Except ParseFault History
  | [], h => .ok h
  | r :: rs, h =>
    match r.parse h with
    | .ok next => parseAll rs next
    | .error e => .error e

/-- The result of the first item that does not end in a mismatch. -/
def parseFirst : List Recogniser → History → Option (Except ParseFault History)
  | [], _ => none
  | r :: rs, h =>
    match r.parse h with
    | .ok next => some (.ok next)
    | .error (.structural fault) => some (.error (.structural fault))
    | .error (.mismatch ..) => parseFirst rs h

end

mutual

/-- Reads on like `parse`, and keeps a log of the meters that were asked. -/
def parseLogged : Recogniser → History → MeterLog → Except ParseFault History × MeterLog
  | .token t, h, log => (t.take h, log)
  | .sequence items, h, log => parseAllLogged items h log
  | .choice items, h, log =>
    match parseFirstLogged items h log with
    | (some result, log) => (result, log)
    | (none, log) => (.error (h.refusal (descriptors items)), log)
  | .repeated count unit, h, log =>
    stepTimesLogged (fun h log => unit.parseLogged h log) count h log
  | .metered meter inner, h, log => inner.parseLogged h (meter :: log)

def parseAllLogged :
    List Recogniser → History → MeterLog → Except ParseFault History × MeterLog
  | [], h, log => (.ok h, log)
  | r :: rs, h, log =>
    match r.parseLogged h log with
    | (.ok next, log) => parseAllLogged rs next log
    | (.error e, log) => (.error e, log)

def parseFirstLogged :
    List Recogniser → History → MeterLog → Option (Except ParseFault History) × MeterLog
  | [], _, log => (none, log)
  | r :: rs, h, log =>
    match r.parseLogged h log with
    | (.ok next, log) => (some (.ok next), log)
    | (.error (.structural fault), log) => (some (.error (.structural fault)), log)
    | (.error (.mismatch ..), log) => parseFirstLogged rs h log

end

def repetitions (s : Sentence) : Except StructuralFault Nat :=
  if s.wordCount = 0 then .error .emptySentence else .ok (Sentence.atomCount s.wordCount)

/-- Reads a sentence from its start, with one run of the unit for each atom. -/
def drive (unit : Recogniser) (s : Sentence) : Except ParseFault History :=
  match repetitions s with
  | .error fault => .error (.structural fault)
  | .ok count => (Recogniser.repeated count unit).parse (History.ofSentence s)

def driveLogged (unit : Recogniser) (s : Sentence) (log : MeterLog) :
    Except ParseFault History × MeterLog :=
  match repetitions s with
  | .error fault => (.error (.structural fault), log)
  | .ok count => (Recogniser.repeated count unit).parseLogged (History.ofSentence s) log

@[simp] theorem parse_metered (meter : Nat) (r : Recogniser) (h : History) :
    (Recogniser.metered meter r).parse h = r.parse h := by
  simp [parse]

@[simp] theorem descriptor_metered (meter : Nat) (r : Recogniser) :
    (Recogniser.metered meter r).descriptor = r.descriptor := by
  simp [descriptor]

theorem descriptors_eq_map (rs : List Recogniser) : descriptors rs = rs.map descriptor := by
  induction rs with
  | nil => rfl
  | cons r rs ih => simp [descriptors, ih]

end Recogniser

theorem fst_stepTimesLogged {ε α : Type} (step : α → Except ε α)
    (logged : α → MeterLog → Except ε α × MeterLog)
    (h : ∀ a log, (logged a log).1 = step a) (n : Nat) (a : α) (log : MeterLog) :
    (stepTimesLogged logged n a log).1 = stepTimes step n a := by
  induction n generalizing a log with
  | zero => rfl
  | succ n ih =>
    have e := h a log
    simp only [stepTimesLogged, stepTimes]
    rcases hl : logged a log with ⟨result, log'⟩
    rw [hl] at e
    subst e
    cases hr : step a with
    | error e => simp
    | ok b => simpa [hr] using ih b log'

namespace Recogniser

mutual

/-- The log has no influence on the result. -/
theorem fst_parseLogged (r : Recogniser) (h : History) (log : MeterLog) :
    (r.parseLogged h log).1 = r.parse h := by
  match r with
  | .token t => simp [parseLogged, parse]
  | .sequence items => simpa [parseLogged, parse] using fst_parseAllLogged items h log
  | .choice items =>
    have e := fst_parseFirstLogged items h log
    simp only [parseLogged, parse]
    rcases hl : parseFirstLogged items h log with ⟨result, log'⟩
    rw [hl] at e
    simp only at e
    rw [← e]
    cases result <;> rfl
  | .repeated count unit =>
    simp only [parseLogged, parse]
    exact fst_stepTimesLogged _ _ (fun h log => fst_parseLogged unit h log) count h log
  | .metered meter inner =>
    simpa [parseLogged, parse] using fst_parseLogged inner h (meter :: log)

theorem fst_parseAllLogged (rs : List Recogniser) (h : History) (log : MeterLog) :
    (parseAllLogged rs h log).1 = parseAll rs h := by
  match rs with
  | [] => rfl
  | r :: rs =>
    have e := fst_parseLogged r h log
    simp only [parseAllLogged, parseAll]
    rcases hl : r.parseLogged h log with ⟨result, log'⟩
    rw [hl] at e
    simp only at e
    rw [← e]
    cases result with
    | error e => rfl
    | ok next => exact fst_parseAllLogged rs next log'

theorem fst_parseFirstLogged (rs : List Recogniser) (h : History) (log : MeterLog) :
    (parseFirstLogged rs h log).1 = parseFirst rs h := by
  match rs with
  | [] => rfl
  | r :: rs =>
    have e := fst_parseLogged r h log
    simp only [parseFirstLogged, parseFirst]
    rcases hl : r.parseLogged h log with ⟨result, log'⟩
    rw [hl] at e
    simp only at e
    rw [← e]
    match result with
    | .ok next => rfl
    | .error (.structural fault) => rfl
    | .error (.mismatch ..) => exact fst_parseFirstLogged rs h log'

end

end Recogniser
end Swell

import Swell.Proofs.Recogniser.Invocations
import Swell.Proofs.Recogniser.Nesting
import Swell.Proofs.Result

/-!
# The questions that pass meters

A meter stands around a part of a recogniser, and every question to that part passes it. Main
statements: meters change neither results nor descriptors; the log of the meters lists the
questions that pass them; and the questions of a list of items are those of its front, and behind
them those of the other items, provided that the front lets them be asked.
-/
namespace Swell

/-- A question that passes a meter, with the history to read on from. -/
structure Question where
  meter : Nat
  on : History

/-- The questions of a number of steps, up to the first step that fails. -/
def questionsOfSteps {ε α : Type} (step : α → Except ε α) (ask : α → List Question) :
    Nat → α → List Question
  | 0, _ => []
  | n + 1, a =>
    ask a ++
      match step a with
      | .ok b => questionsOfSteps step ask n b
      | .error _ => []

namespace Recogniser

mutual

/-- The questions that pass meters while the recogniser reads on from a history, in order. -/
def questions : Recogniser → History → List Question
  | .token _, _ => []
  | .sequence items, h => questionsAll items h
  | .choice items, h => questionsFirst items h
  | .repeated count unit, h => questionsOfSteps unit.parse (fun h => unit.questions h) count h
  | .metered meter inner, h => ⟨meter, h⟩ :: inner.questions h

def questionsAll : List Recogniser → History → List Question
  | [], _ => []
  | r :: rs, h =>
    r.questions h ++
      match r.parse h with
      | .ok next => questionsAll rs next
      | .error _ => []

def questionsFirst : List Recogniser → History → List Question
  | [], _ => []
  | r :: rs, h =>
    r.questions h ++
      match r.parse h with
      | .error (.mismatch ..) => questionsFirst rs h
      | _ => []

end

mutual

/-- The recogniser without its meters. -/
def unmetered : Recogniser → Recogniser
  | .token t => .token t
  | .sequence items => .sequence (allUnmetered items)
  | .choice items => .choice (allUnmetered items)
  | .repeated count unit => .repeated count unit.unmetered
  | .metered _ inner => inner.unmetered

def allUnmetered : List Recogniser → List Recogniser
  | [] => []
  | r :: rs => r.unmetered :: allUnmetered rs

end

mutual

theorem descriptor_unmetered (r : Recogniser) : r.unmetered.descriptor = r.descriptor := by
  match r with
  | .token t => rw [unmetered]
  | .sequence items => rw [unmetered, descriptor, descriptor, descriptors_unmetered items]
  | .choice items => rw [unmetered, descriptor, descriptor, descriptors_unmetered items]
  | .repeated count unit => rw [unmetered, descriptor, descriptor, descriptor_unmetered unit]
  | .metered _ inner => rw [unmetered, descriptor_metered, descriptor_unmetered inner]

theorem descriptors_unmetered (rs : List Recogniser) :
    descriptors (allUnmetered rs) = descriptors rs := by
  match rs with
  | [] => rw [allUnmetered]
  | r :: rs =>
    rw [allUnmetered, descriptors, descriptors, descriptor_unmetered r, descriptors_unmetered rs]

end

mutual

theorem parse_unmetered (r : Recogniser) (h : History) : r.unmetered.parse h = r.parse h := by
  match r with
  | .token t => rw [unmetered]
  | .sequence items =>
    rw [unmetered, parse, parse]
    exact parseAll_unmetered items h
  | .choice items =>
    rw [unmetered, parse, parse, parseFirst_unmetered items h, descriptors_unmetered]
  | .repeated count unit =>
    have hunit : unit.unmetered.parse = unit.parse := funext (parse_unmetered unit)
    rw [unmetered, parse, parse, hunit]
  | .metered _ inner =>
    rw [unmetered, parse_metered]
    exact parse_unmetered inner h

theorem parseAll_unmetered (rs : List Recogniser) (h : History) :
    parseAll (allUnmetered rs) h = parseAll rs h := by
  match rs with
  | [] => rw [allUnmetered]
  | r :: rs =>
    rw [allUnmetered, parseAll_cons, parseAll_cons, parse_unmetered r h,
      funext (parseAll_unmetered rs)]

theorem parseFirst_unmetered (rs : List Recogniser) (h : History) :
    parseFirst (allUnmetered rs) h = parseFirst rs h := by
  match rs with
  | [] => rw [allUnmetered]
  | r :: rs =>
    rw [allUnmetered, parseFirst, parseFirst, parse_unmetered r h, parseFirst_unmetered rs h]

end

end Recogniser

/-- The log behind questions: their meters, the last first, and then what was logged before. -/
def logBehind (questions : List Question) (log : MeterLog) : MeterLog :=
  (questions.map Question.meter).reverse ++ log

theorem logBehind_append (qs qs' : List Question) (log : MeterLog) :
    logBehind (qs ++ qs') log = logBehind qs' (logBehind qs log) := by
  simp [logBehind]

theorem stepTimesLogged_eq {ε α : Type} {step : α → Except ε α} {ask : α → List Question}
    {logged : α → MeterLog → Except ε α × MeterLog}
    (h : ∀ a log, logged a log = (step a, logBehind (ask a) log)) (n : Nat) (a : α)
    (log : MeterLog) :
    stepTimesLogged logged n a log =
      (stepTimes step n a, logBehind (questionsOfSteps step ask n a) log) := by
  induction n generalizing a log with
  | zero => rfl
  | succ n ih =>
    rw [stepTimesLogged, stepTimes, questionsOfSteps, h, logBehind_append]
    cases step a with
    | error e => rfl
    | ok b => exact ih b _

namespace Recogniser

mutual

/-- Reading with a log gives the result of reading without one, and logs each question once. -/
theorem parseLogged_eq (r : Recogniser) (h : History) (log : MeterLog) :
    r.parseLogged h log = (r.parse h, logBehind (r.questions h) log) := by
  match r with
  | .token t =>
    rw [parseLogged, parse, questions]
    rfl
  | .sequence items =>
    rw [parseLogged, parse, questions]
    exact parseAllLogged_eq items h log
  | .choice items =>
    rw [parseLogged, parse, questions, parseFirstLogged_eq items h log]
    cases parseFirst items h <;> rfl
  | .repeated count unit =>
    rw [parseLogged, parse, questions]
    exact stepTimesLogged_eq (fun h log => parseLogged_eq unit h log) count h log
  | .metered meter inner =>
    rw [parseLogged, parse_metered, questions, parseLogged_eq inner h (meter :: log)]
    simp [logBehind]

theorem parseAllLogged_eq (rs : List Recogniser) (h : History) (log : MeterLog) :
    parseAllLogged rs h log = (parseAll rs h, logBehind (questionsAll rs h) log) := by
  match rs with
  | [] => rfl
  | r :: rs =>
    rw [parseAllLogged, parseAll, questionsAll, parseLogged_eq r h log, logBehind_append]
    cases r.parse h with
    | error fault => rfl
    | ok next => exact parseAllLogged_eq rs next _

theorem parseFirstLogged_eq (rs : List Recogniser) (h : History) (log : MeterLog) :
    parseFirstLogged rs h log = (parseFirst rs h, logBehind (questionsFirst rs h) log) := by
  match rs with
  | [] => rfl
  | r :: rs =>
    rw [parseFirstLogged, parseFirst, questionsFirst, parseLogged_eq r h log, logBehind_append]
    match r.parse h with
    | .ok next => rfl
    | .error (.structural fault) => rfl
    | .error (.mismatch ..) => exact parseFirstLogged_eq rs h _

end

/-- The recognisers read on one after the other, each on the history that the one before it
returned. -/
inductive InTurn : List Recogniser → History → History → Prop where
  | nil (h : History) : InTurn [] h h
  | cons {r : Recogniser} {rs : List Recogniser} {h next out : History} :
    r.parse h = .ok next → InTurn rs next out → InTurn (r :: rs) h out

theorem inTurn_iff (rs : List Recogniser) (h out : History) :
    InTurn rs h out ↔ parseAll rs h = .ok out := by
  constructor
  · intro hin
    induction hin with
    | nil h => rfl
    | cons hr _ ih =>
      rw [parseAll_cons, hr]
      exact ih
  · intro e
    induction rs generalizing h with
    | nil =>
      obtain rfl : h = out := Except.ok.inj e
      exact .nil h
    | cons r rs ih =>
      rw [parseAll_cons] at e
      obtain ⟨next, hnext, e⟩ := bind_eq_ok_iff.1 e
      exact .cons hnext (ih next e)

theorem inTurn_nil_iff (h out : History) : InTurn [] h out ↔ h = out := by
  rw [inTurn_iff, parseAll, Except.ok.injEq]

theorem inTurn_cons_iff (r : Recogniser) (rs : List Recogniser) (h out : History) :
    InTurn (r :: rs) h out ↔ ∃ next, r.parse h = .ok next ∧ InTurn rs next out := by
  simp only [inTurn_iff, parseAll_cons, bind_eq_ok_iff]

theorem questionsAll_append (rs ts : List Recogniser) (h : History) :
    questionsAll (rs ++ ts) h = questionsAll rs h ++
      match parseAll rs h with
      | .ok next => questionsAll ts next
      | .error _ => [] := by
  induction rs generalizing h with
  | nil => rfl
  | cons r rs ih =>
    rw [List.cons_append, questionsAll, questionsAll, parseAll_cons, List.append_assoc]
    cases r.parse h with
    | error fault => rfl
    | ok next => exact congrArg (r.questions h ++ ·) (ih next)

theorem questionsOfSteps_eq (unit : Recogniser) (n : Nat) (h : History) :
    questionsOfSteps unit.parse unit.questions n h = questionsAll (List.replicate n unit) h := by
  induction n generalizing h with
  | zero => rfl
  | succ n ih =>
    rw [questionsOfSteps, List.replicate_succ, questionsAll]
    cases unit.parse h with
    | error fault => rfl
    | ok next => exact congrArg (unit.questions h ++ ·) (ih next)

theorem questionsFirst_cons_of_passedOver {r : Recogniser} {h : History} (hr : r.PassedOver h)
    (rs : List Recogniser) :
    questionsFirst (r :: rs) h = r.questions h ++ questionsFirst rs h := by
  obtain ⟨position, expected, actual, e⟩ := hr
  rw [questionsFirst, e]

theorem questionsFirst_cons_of_not_passedOver {r : Recogniser} {h : History}
    (hr : ¬r.PassedOver h) (rs : List Recogniser) :
    questionsFirst (r :: rs) h = r.questions h := by
  rw [questionsFirst]
  match e : r.parse h with
  | .ok next => simp
  | .error (.structural fault) => simp
  | .error (.mismatch position expected actual) =>
    exact absurd ⟨position, expected, actual, e⟩ hr

theorem questionsFirst_append_of_passedOver {rs : List Recogniser} {h : History}
    (hrs : ∀ r ∈ rs, r.PassedOver h) (ts : List Recogniser) :
    questionsFirst (rs ++ ts) h = questionsFirst rs h ++ questionsFirst ts h := by
  induction rs with
  | nil => rfl
  | cons r rs ih =>
    obtain ⟨hr, hrs⟩ := List.forall_mem_cons.1 hrs
    rw [List.cons_append, questionsFirst_cons_of_passedOver hr,
      questionsFirst_cons_of_passedOver hr, ih hrs, List.append_assoc]

theorem questionsFirst_append_of_not {rs : List Recogniser} {h : History}
    (hrs : ¬∀ r ∈ rs, r.PassedOver h) (ts : List Recogniser) :
    questionsFirst (rs ++ ts) h = questionsFirst rs h := by
  induction rs with
  | nil => exact absurd (by simp) hrs
  | cons r rs ih =>
    by_cases hr : r.PassedOver h
    · have hrest : ¬∀ p ∈ rs, p.PassedOver h := fun hall =>
        hrs (List.forall_mem_cons.2 ⟨hr, hall⟩)
      rw [List.cons_append, questionsFirst_cons_of_passedOver hr,
        questionsFirst_cons_of_passedOver hr, ih hrest]
    · rw [List.cons_append, questionsFirst_cons_of_not_passedOver hr,
        questionsFirst_cons_of_not_passedOver hr]

/-- The histories on which the questions that pass a meter are asked, in order. -/
def passing (meter : Nat) (qs : List Question) : List History :=
  (qs.filter fun q => q.meter == meter).map Question.on

theorem passing_cons (meter : Nat) (q : Question) (qs : List Question) :
    passing meter (q :: qs) = (if q.meter = meter then [q.on] else []) ++ passing meter qs := by
  by_cases hq : q.meter = meter
  · simp [passing, hq]
  · simp [passing, hq]

theorem passing_append (meter : Nat) (qs qs' : List Question) :
    passing meter (qs ++ qs') = passing meter qs ++ passing meter qs' := by
  rw [passing, List.filter_append, List.map_append, passing, passing]

theorem count_logBehind (meter : Nat) (qs : List Question) (log : MeterLog) :
    (logBehind qs log).count meter = log.count meter + (passing meter qs).length := by
  induction qs generalizing log with
  | nil => rfl
  | cons q qs ih =>
    have hcons : logBehind (q :: qs) log = logBehind qs (q.meter :: log) := by simp [logBehind]
    rw [hcons, ih, passing_cons, List.length_append]
    by_cases hq : q.meter = meter
    · rw [hq, List.count_cons_self, if_pos rfl, List.length_singleton]
      omega
    · rw [List.count_cons_of_ne hq, if_neg hq, List.length_nil, Nat.zero_add]

/-- The histories on which a meter is passed while the recogniser reads on. -/
def asked (meter : Nat) (r : Recogniser) (h : History) : List History :=
  passing meter (r.questions h)

/-- A meter counts the questions that pass it, on top of what it has counted before. -/
theorem count_parseLogged_eq (meter : Nat) (r : Recogniser) (h : History) (log : MeterLog) :
    (r.parseLogged h log).2.count meter = log.count meter + (asked meter r h).length := by
  rw [parseLogged_eq, count_logBehind, asked]

variable {meter : Nat} {r unit : Recogniser} {items before behind : List Recogniser}
  {h next : History}

theorem asked_of_not_mem (hr : meter ∉ r.meters) (h : History) : asked meter r h = [] := by
  have hcount := count_parseLogged r hr h []
  rw [count_parseLogged_eq, List.count_nil, Nat.zero_add] at hcount
  exact List.length_eq_zero_iff.1 hcount

theorem asked_token (t : Token) (h : History) : asked meter (token t) h = [] := by
  rw [asked, questions]
  rfl

theorem asked_metered (k : Nat) (r : Recogniser) (h : History) :
    asked meter (metered k r) h = (if k = meter then [h] else []) ++ asked meter r h := by
  rw [asked, questions, passing_cons, asked]

theorem asked_sequence_nil (h : History) : asked meter (sequence []) h = [] := by
  rw [asked, questions]
  rfl

theorem asked_sequence_singleton (r : Recogniser) (h : History) :
    asked meter (sequence [r]) h = asked meter r h := by
  rw [asked, questions, questionsAll, asked]
  cases r.parse h <;> simp [questionsAll]

theorem asked_sequence_append (hin : InTurn before h next) (behind : List Recogniser) :
    asked meter (sequence (before ++ behind)) h =
      asked meter (sequence before) h ++ asked meter (sequence behind) next := by
  have hall := (inTurn_iff before h next).1 hin
  simp only [asked, questions, questionsAll_append, hall, passing_append]

theorem asked_sequence_append_of_not (hnot : ¬∃ next, InTurn before h next)
    (behind : List Recogniser) :
    asked meter (sequence (before ++ behind)) h = asked meter (sequence before) h := by
  simp only [asked, questions, questionsAll_append]
  cases hall : parseAll before h with
  | error fault => simp
  | ok next => exact absurd ⟨next, (inTurn_iff before h next).2 hall⟩ hnot

theorem asked_choice_nil (h : History) : asked meter (choice []) h = [] := by
  rw [asked, questions]
  rfl

theorem asked_choice_singleton (r : Recogniser) (h : History) :
    asked meter (choice [r]) h = asked meter r h := by
  by_cases hr : r.PassedOver h
  · rw [asked, questions, questionsFirst_cons_of_passedOver hr, questionsFirst, List.append_nil,
      asked]
  · rw [asked, questions, questionsFirst_cons_of_not_passedOver hr, asked]

theorem asked_choice_append (hpassed : ∀ p ∈ before, p.PassedOver h)
    (behind : List Recogniser) :
    asked meter (choice (before ++ behind)) h =
      asked meter (choice before) h ++ asked meter (choice behind) h := by
  simp only [asked, questions, questionsFirst_append_of_passedOver hpassed, passing_append]

theorem asked_choice_append_of_not (hnot : ¬∀ p ∈ before, p.PassedOver h)
    (behind : List Recogniser) :
    asked meter (choice (before ++ behind)) h = asked meter (choice before) h := by
  simp only [asked, questions, questionsFirst_append_of_not hnot]

theorem asked_repeated (n : Nat) (unit : Recogniser) (h : History) :
    asked meter (repeated n unit) h = asked meter (sequence (List.replicate n unit)) h := by
  rw [asked, asked, questions, questions, questionsOfSteps_eq]

end Recogniser
end Swell

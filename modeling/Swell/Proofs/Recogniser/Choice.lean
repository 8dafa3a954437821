import Swell.Proofs.Recogniser.Faults

/-!
# Which item a choice reads on with

A choice passes over the items that mismatch, and stops at the first other one. Main statements: it
stops at an item that does not read on only where this one comes to the end of the unread atoms, as
a sequence may in the middle; so an item that reads on can be lost to an earlier one, but not if no
earlier one may ask for more atoms than are left.
-/
namespace Swell

namespace Recogniser

/-- The recogniser does not fit, and a choice goes on to the next item. -/
def PassedOver (r : Recogniser) (h : History) : Prop :=
  ∃ position expected actual, r.parse h = .error (.mismatch position expected actual)

theorem not_passedOver_of_ok {r : Recogniser} {h out : History} (e : r.parse h = .ok out) :
    ¬r.PassedOver h := by
  rintro ⟨_, _, _, hmismatch⟩
  rw [e] at hmismatch
  cases hmismatch

theorem parseFirst_cons_of_passedOver {r : Recogniser} {h : History} (hr : r.PassedOver h)
    (rs : List Recogniser) : parseFirst (r :: rs) h = parseFirst rs h := by
  obtain ⟨position, expected, actual, e⟩ := hr
  rw [parseFirst, e]

theorem parseFirst_cons_of_not_passedOver {r : Recogniser} {h : History} (hr : ¬r.PassedOver h)
    (rs : List Recogniser) : parseFirst (r :: rs) h = some (r.parse h) := by
  rw [parseFirst]
  match e : r.parse h with
  | .ok next => rfl
  | .error (.structural fault) => rfl
  | .error (.mismatch position expected actual) =>
    exact absurd ⟨position, expected, actual, e⟩ hr

theorem parseFirst_eq_some_iff (rs : List Recogniser) (h : History)
    (result : Except ParseFault History) :
    parseFirst rs h = some result ↔ ∃ before r behind, rs = before ++ r :: behind ∧
      (∀ p ∈ before, p.PassedOver h) ∧ ¬r.PassedOver h ∧ r.parse h = result := by
  constructor
  · intro e
    induction rs with
    | nil => simp [parseFirst] at e
    | cons r rs ih =>
      by_cases hr : r.PassedOver h
      · rw [parseFirst_cons_of_passedOver hr] at e
        obtain ⟨before, p, behind, rfl, hbefore, hp⟩ := ih e
        exact ⟨r :: before, p, behind, rfl, List.forall_mem_cons.2 ⟨hr, hbefore⟩, hp⟩
      · rw [parseFirst_cons_of_not_passedOver hr] at e
        exact ⟨[], r, rs, rfl, by simp, hr, Option.some.inj e⟩
  · rintro ⟨before, r, behind, rfl, hbefore, hr, rfl⟩
    induction before with
    | nil => exact parseFirst_cons_of_not_passedOver hr behind
    | cons p before ih =>
      obtain ⟨hp, hbefore⟩ := List.forall_mem_cons.1 hbefore
      rw [List.cons_append, parseFirst_cons_of_passedOver hp]
      exact ih hbefore

theorem parse_choice_eq_ok_iff (items : List Recogniser) (h out : History) :
    (choice items).parse h = .ok out ↔ ∃ before r behind, items = before ++ r :: behind ∧
      (∀ p ∈ before, p.PassedOver h) ∧ r.parse h = .ok out := by
  have hfirst : (choice items).parse h = .ok out ↔ parseFirst items h = some (.ok out) := by
    rw [parse]
    cases parseFirst items h <;> simp
  rw [hfirst, parseFirst_eq_some_iff]
  constructor
  · rintro ⟨before, r, behind, hitems, hbefore, -, e⟩
    exact ⟨before, r, behind, hitems, hbefore, e⟩
  · rintro ⟨before, r, behind, hitems, hbefore, e⟩
    exact ⟨before, r, behind, hitems, hbefore, not_passedOver_of_ok e, e⟩

mutual

/-- How many atoms the recogniser may ask for at most. A choice asks for one even if it has no
items. -/
def span : Recogniser → Nat
  | .token _ => 1
  | .sequence items => spanAll items
  | .choice items => spanAny items
  | .repeated count unit => count * unit.span
  | .metered _ inner => inner.span

def spanAll : List Recogniser → Nat
  | [] => 0
  | r :: rs => r.span + spanAll rs

def spanAny : List Recogniser → Nat
  | [] => 1
  | r :: rs => max r.span (spanAny rs)

end

theorem spanAny_pos (rs : List Recogniser) : 0 < spanAny rs := by
  induction rs with
  | nil => exact Nat.one_pos
  | cons r rs ih =>
    rw [spanAny]
    omega

end Recogniser

namespace History

/-- From the end of the history, the result was reached with a number of atoms: if it is a history,
no more than these were taken, and if the atoms came to an end, not all of them were there. -/
structure Spans (h : History) (width : Nat) (result : Except ParseFault History) : Prop where
  takes : ∀ s out, h.last? = some s → result = .ok out →
    ∃ s', out.last? = some s' ∧ s.remaining.length ≤ s'.remaining.length + width
  needs : ∀ s, h.last? = some s → result = .error (.structural .nothingRemaining) →
    s.remaining.length < width

variable {h : History} {m n : Nat} {result : Except ParseFault History}

theorem Spans.mono (hr : h.Spans m result) (hmn : m ≤ n) : h.Spans n result where
  takes s out hs e := by
    obtain ⟨s', hs', hle⟩ := hr.takes s out hs e
    exact ⟨s', hs', by omega⟩
  needs s hs e := Nat.lt_of_lt_of_le (hr.needs s hs e) hmn

theorem spans_ok (h : History) : h.Spans 0 (.ok h) where
  takes s out hs e := by
    cases e
    exact ⟨s, hs, Nat.le_refl _⟩
  needs s hs e := by cases e

theorem Spans.bind {step : History → Except ParseFault History} (hfirst : h.Spans m result)
    (hsecond : ∀ next, h.Spans m (.ok next) → next.Spans n (step next)) :
    h.Spans (m + n) (result >>= step) := by
  cases result with
  | error fault => exact hfirst.mono (Nat.le_add_right m n)
  | ok next =>
    have hnext := hsecond next hfirst
    constructor
    · intro s out hs e
      obtain ⟨s', hs', hle⟩ := hfirst.takes s next hs rfl
      obtain ⟨s'', hs'', hle'⟩ := hnext.takes s' out hs' e
      exact ⟨s'', hs'', by omega⟩
    · intro s hs e
      obtain ⟨s', hs', hle⟩ := hfirst.takes s next hs rfl
      have hlt := hnext.needs s' hs' e
      omega

theorem spans_stepTimes {step : History → Except ParseFault History}
    (hstep : ∀ h : History, h.Spans m (step h)) (count : Nat) (h : History) :
    h.Spans (count * m) (stepTimes step count h) := by
  induction count generalizing h with
  | zero =>
    rw [Nat.zero_mul]
    exact h.spans_ok
  | succ count ih =>
    rw [stepTimes_succ, Nat.succ_mul, Nat.add_comm]
    exact (hstep h).bind fun next _ => ih next

theorem spans_refusal (h : History) (expected : List Descriptor) (hm : 0 < m) :
    h.Spans m (.error (h.refusal expected)) where
  takes s out hs e := by cases e
  needs s hs e := by
    cases hr : s.remaining with
    | nil => exact hm
    | cons atom rest => simp [refusal, hs, State.head?, hr] at e

end History

theorem Token.spans_take (t : Token) (h : History) : h.Spans 1 (t.take h) := by
  constructor
  · intro s out hs e
    obtain ⟨last, next, hlast, -, hnext, rfl⟩ := (t.take_eq_ok_iff h out).1 e
    obtain rfl : s = last := Option.some.inj (hs.symm.trans hlast)
    obtain ⟨atom, hrest, -⟩ := (s.advance?_eq_some_iff next).1 hnext
    exact ⟨next, History.last?_push h next, by simp [hrest]⟩
  · intro s hs e
    cases hr : s.remaining with
    | nil => exact Nat.one_pos
    | cons atom rest =>
      unfold take at e
      by_cases ha : t.pattern.accepts atom = true <;> simp [hs, hr, ha] at e

namespace Recogniser

mutual

theorem spans_parse (r : Recogniser) (h : History) : h.Spans r.span (r.parse h) := by
  match r with
  | .token t =>
    rw [span, parse]
    exact t.spans_take h
  | .sequence items =>
    rw [span, parse]
    exact spans_parseAll items h
  | .choice items =>
    rw [span, parse]
    split
    · next result hresult => exact spans_parseFirst items h result hresult
    · exact h.spans_refusal _ (spanAny_pos items)
  | .repeated count unit =>
    rw [span, parse]
    exact History.spans_stepTimes (fun h => spans_parse unit h) count h
  | .metered _ inner =>
    rw [span, parse]
    exact spans_parse inner h

theorem spans_parseAll (rs : List Recogniser) (h : History) :
    h.Spans (spanAll rs) (parseAll rs h) := by
  match rs with
  | [] => exact h.spans_ok
  | r :: rs =>
    rw [spanAll, parseAll_cons]
    exact (spans_parse r h).bind fun next _ => spans_parseAll rs next

theorem spans_parseFirst (rs : List Recogniser) (h : History)
    (result : Except ParseFault History) (e : parseFirst rs h = some result) :
    h.Spans (spanAny rs) result := by
  match rs with
  | [] => simp [parseFirst] at e
  | r :: rs =>
    rw [spanAny]
    by_cases hr : r.PassedOver h
    · rw [parseFirst_cons_of_passedOver hr] at e
      exact (spans_parseFirst rs h result e).mono (Nat.le_max_right _ _)
    · rw [parseFirst_cons_of_not_passedOver hr] at e
      obtain rfl := Option.some.inj e
      exact (spans_parse r h).mono (Nat.le_max_left _ _)

end

/-- On a history with a last state, the only structural fault is to come to the end of its atoms. -/
theorem eq_nothingRemaining_of_parse {r : Recogniser} {h : History} {s : State}
    (hs : h.last? = some s) {fault : StructuralFault}
    (e : r.parse h = .error (.structural fault)) : fault = .nothingRemaining := by
  have htrue := r.justifies_of_parse h _ e
  match fault, htrue with
  | .emptyHistory, hempty =>
    rw [h.isEmpty_iff.1 hempty] at hs
    cases hs
  | .nothingRemaining, _ => rfl

/-- An item that reads on is not lost to items that cannot come to the end of the atoms. -/
theorem exists_parseFirst_eq_ok {before : List Recogniser} (behind : List Recogniser)
    {r : Recogniser} {h : History} {s : State} (hs : h.last? = some s)
    (hr : ∃ out, r.parse h = .ok out) (hbefore : ∀ p ∈ before, p.span ≤ s.remaining.length) :
    ∃ out, parseFirst (before ++ r :: behind) h = some (.ok out) := by
  induction before with
  | nil =>
    obtain ⟨out, e⟩ := hr
    exact ⟨out, by rw [List.nil_append, parseFirst, e]⟩
  | cons p before ih =>
    obtain ⟨hp, hbefore⟩ := List.forall_mem_cons.1 hbefore
    rw [List.cons_append, parseFirst]
    match e : p.parse h with
    | .ok out => exact ⟨out, rfl⟩
    | .error (.structural fault) =>
      obtain rfl := eq_nothingRemaining_of_parse hs e
      have hneeds := (p.spans_parse h).needs s hs e
      omega
    | .error (.mismatch ..) => exact ih hbefore

end Recogniser

/-- On a history with unread atoms, a choice reads on with the first item that does so, provided
that all items before it mismatch. It ends with a structural fault only at an item that comes to
the end of the atoms, because it may ask for more of them than are left. So an item that reads on
is not lost where the items before it ask for no more atoms than are left. -/
theorem choice_stops_only_at_wider_items (items : List Recogniser) (h : History) (s : State)
    (hs : h.last? = some s) (hrest : s.remaining ≠ []) :
    (∀ out, (Recogniser.choice items).parse h = .ok out ↔
      ∃ before r behind, items = before ++ r :: behind ∧ (∀ p ∈ before, p.PassedOver h) ∧
        r.parse h = .ok out) ∧
    (∀ fault, (Recogniser.choice items).parse h = .error (.structural fault) →
      fault = .nothingRemaining ∧
      ∃ before r behind, items = before ++ r :: behind ∧ (∀ p ∈ before, p.PassedOver h) ∧
        r.parse h = .error (.structural .nothingRemaining) ∧ s.remaining.length < r.span) ∧
    ∀ before r behind, items = before ++ r :: behind → (∃ out, r.parse h = .ok out) →
      (∀ p ∈ before, p.span ≤ s.remaining.length) →
      ∃ out, (Recogniser.choice items).parse h = .ok out := by
  refine ⟨fun out => Recogniser.parse_choice_eq_ok_iff items h out, fun fault e => ?_, ?_⟩
  · obtain rfl := Recogniser.eq_nothingRemaining_of_parse hs e
    refine ⟨rfl, ?_⟩
    rw [Recogniser.parse] at e
    split at e
    · next result hresult =>
      obtain ⟨before, r, behind, hitems, hbefore, -, hr⟩ :=
        (Recogniser.parseFirst_eq_some_iff items h result).1 hresult
      rw [e] at hr
      exact ⟨before, r, behind, hitems, hbefore, hr, (r.spans_parse h).needs s hs hr⟩
    · -- the choice itself refuses only the next atom, and there is one
      obtain ⟨atom, rest, hcons⟩ := List.exists_cons_of_ne_nil hrest
      simp [History.refusal, hs, State.head?, hcons] at e
  · rintro before r behind rfl hr hbefore
    obtain ⟨out, e⟩ := Recogniser.exists_parseFirst_eq_ok behind hs hr hbefore
    exact ⟨out, by rw [Recogniser.parse, e]⟩

/-- A flat word with a separator behind it, or else the flat word alone. -/
def spacedOrAlone : List Recogniser :=
  [.sequence [.token ⟨⟨"[F]", .one (.single 'F')⟩, .pattern "[F]"⟩,
      .token ⟨⟨"[\\s]", .one (.property .blank)⟩, .pattern "[\\s]"⟩],
    .token ⟨⟨"[F]", .one (.single 'F')⟩, .pattern "[F]"⟩]

/-- With a word behind it, the flat word alone would be read, and the choice reads on. -/
theorem spacedOrAlone_reads_before_other_words :
    (History.ofSentence ⟨"F P1"⟩).last? = some (.start ["F", " ", "P1"]) ∧
      (State.start ["F", " ", "P1"]).remaining ≠ [] ∧
      ∃ out, (Recogniser.choice spacedOrAlone).parse (.ofSentence ⟨"F P1"⟩) = .ok out := by
  have hs : (History.ofSentence ⟨"F P1"⟩).last? = some (.start ["F", " ", "P1"]) := rfl
  have hrest : (State.start ["F", " ", "P1"]).remaining ≠ [] := List.cons_ne_nil _ _
  obtain ⟨-, -, hkept⟩ := choice_stops_only_at_wider_items spacedOrAlone _ _ hs hrest
  refine ⟨hs, hrest, hkept [_] _ [] rfl ⟨_, rfl⟩ ?_⟩
  intro p hp
  rw [List.mem_singleton.1 hp]
  decide

/-- At the end of a sentence the flat word alone is still read, but the choice ends with the fault
of the sequence, which finds no separator there. -/
theorem spacedOrAlone_loses_last_word :
    (History.ofSentence ⟨"F"⟩).last? = some (.start ["F"]) ∧
      (State.start ["F"]).remaining ≠ [] ∧
      (∃ r ∈ spacedOrAlone, ∃ out, r.parse (.ofSentence ⟨"F"⟩) = .ok out) ∧
      (Recogniser.choice spacedOrAlone).parse (.ofSentence ⟨"F"⟩) =
        .error (.structural .nothingRemaining) := by
  refine ⟨rfl, List.cons_ne_nil _ _, ⟨_, List.mem_cons_of_mem _ List.mem_cons_self, ?_⟩, rfl⟩
  exact ⟨.ofStates [⟨["F"], none, 0⟩, ⟨[], some "F", 1⟩], rfl⟩

end Swell

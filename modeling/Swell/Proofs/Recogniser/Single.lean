import Swell.Proofs.Recogniser.Growth

/-!
# Recognisers of single atoms

A token, a choice between tokens, a choice between such choices, and so on, all do the same: they
take the next atom if they admit it, and otherwise refuse it. Main statements: this behaviour,
whatever the nesting; and how a reading of a sentence with such a recogniser ends, which depends on
the first atom only that is not admitted.
-/
namespace Swell

namespace History

def advance? (h : History) : Option State :=
  h.last?.bind State.advance?

/-- Takes the next atom if it is admitted. -/
def takeIf (admits : Atom → Bool) (expected : List Descriptor) (h : History) :
    Except ParseFault History :=
  match h.advance? with
  | some next => if next.taken.any admits then .ok (h.push next) else .error (h.refusal expected)
  | none => .error (h.refusal expected)

/-- Where no atom is left, the fault does not depend on what was expected. -/
theorem exists_refusal_eq_structural {h : History} (hn : h.advance? = none) :
    ∃ fault, ∀ expected, h.refusal expected = .structural fault := by
  cases hs : h.last? with
  | none => exact ⟨.emptyHistory, fun expected => by rw [refusal, hs]⟩
  | some s =>
    rw [advance?, hs, Option.bind_some, State.advance?_eq_none_iff, ← State.head?_eq_none_iff] at hn
    exact ⟨.nothingRemaining, fun expected => by simp only [refusal, hs, hn]⟩

theorem advance?_eq_some {h : History} {s : State} {atom : Atom} {rest : List Atom}
    (hs : h.last? = some s) (hr : s.remaining = atom :: rest) :
    h.advance? = some ⟨rest, some atom, s.position + 1⟩ := by
  rw [advance?, hs, Option.bind_some, State.advance?, hr]

theorem refusal_eq_mismatch {h : History} {s : State} {atom : Atom} {rest : List Atom}
    (hs : h.last? = some s) (hr : s.remaining = atom :: rest) (expected : List Descriptor) :
    h.refusal expected = .mismatch s.position expected atom := by
  have hhead : s.head? = some atom := by rw [State.head?, hr, List.head?_cons]
  simp only [refusal, hs, hhead]

theorem exists_remaining_of_advance? {h : History} {next : State} (hn : h.advance? = some next) :
    ∃ s atom rest, h.last? = some s ∧ s.remaining = atom :: rest ∧
      next = ⟨rest, some atom, s.position + 1⟩ := by
  obtain ⟨s, hs, hadv⟩ := Option.bind_eq_some_iff.1 hn
  obtain ⟨atom, hr, htaken, hpos⟩ := (s.advance?_eq_some_iff next).1 hadv
  refine ⟨s, atom, next.remaining, hs, hr, ?_⟩
  rw [← htaken, ← hpos]

variable (admits : Atom → Bool) (expected : List Descriptor)

theorem takeIf_eq_ok {h : History} {s : State} {atom : Atom} {rest : List Atom}
    (hs : h.last? = some s) (hr : s.remaining = atom :: rest) (ha : admits atom = true) :
    h.takeIf admits expected = .ok (h.push ⟨rest, some atom, s.position + 1⟩) := by
  simp [takeIf, advance?_eq_some hs hr, ha]

theorem takeIf_eq_error {h : History} {s : State} {atom : Atom} {rest : List Atom}
    (hs : h.last? = some s) (hr : s.remaining = atom :: rest) (ha : admits atom = false) :
    h.takeIf admits expected = .error (.mismatch s.position expected atom) := by
  simp [takeIf, advance?_eq_some hs hr, ha, refusal_eq_mismatch hs hr]

end History

theorem Token.take_eq_takeIf (t : Token) (h : History) :
    t.take h = h.takeIf t.pattern.accepts [t.shown] := by
  cases hs : h.last? with
  | none => simp [Token.take, hs, History.takeIf, History.advance?, History.refusal]
  | some s =>
    cases hr : s.remaining with
    | nil =>
      have hhead : s.head? = none := (s.head?_eq_none_iff).2 hr
      have hadv : s.advance? = none := (s.advance?_eq_none_iff).2 hr
      simp [Token.take, hs, hr, History.takeIf, History.advance?, hadv, History.refusal, hhead]
    | cons atom rest =>
      cases ha : t.pattern.accepts atom with
      | true => simp [Token.take, hs, hr, ha, History.takeIf_eq_ok _ _ hs hr ha]
      | false => simp [Token.take, hs, hr, ha, History.takeIf_eq_error _ _ hs hr ha]

namespace Recogniser

mutual

/-- The recogniser is a token or a choice between recognisers of single atoms. -/
def isSingle : Recogniser → Bool
  | .token _ => true
  | .sequence _ => false
  | .choice items => areSingle items
  | .repeated .. => false
  | .metered _ inner => inner.isSingle

def areSingle : List Recogniser → Bool
  | [] => true
  | r :: rs => r.isSingle && areSingle rs

end

mutual

/-- Some token of the recogniser accepts the atom. -/
def admits : Recogniser → Atom → Bool
  | .token t, atom => t.pattern.accepts atom
  | .sequence _, _ => false
  | .choice items, atom => admitsAny items atom
  | .repeated .. , _ => false
  | .metered _ inner, atom => inner.admits atom

def admitsAny : List Recogniser → Atom → Bool
  | [], _ => false
  | r :: rs, atom => r.admits atom || admitsAny rs atom

end

/-- What the recogniser of a single atom says was expected instead of one that it refuses. -/
def expected : Recogniser → List Descriptor
  | .token t => [t.shown]
  | .sequence _ => []
  | .choice items => descriptors items
  | .repeated .. => []
  | .metered _ inner => inner.expected

mutual

/-- However choices are nested, a recogniser of single atoms takes what one of its tokens accepts
and refuses everything else. -/
theorem parse_of_isSingle (r : Recogniser) (hr : r.isSingle = true) (h : History) :
    r.parse h = h.takeIf r.admits r.expected := by
  match r with
  | .token t =>
    rw [parse]
    exact t.take_eq_takeIf h
  | .choice items =>
    rw [isSingle] at hr
    rw [parse]
    cases hn : h.advance? with
    | none =>
      obtain ⟨fault, hfault⟩ := History.exists_refusal_eq_structural hn
      have hfirst := parseFirst_of_exhausted items hr hn hfault
      simp only [History.takeIf, hn, expected, hfault]
      rcases hfirst with e | e <;> rw [e]
    | some next =>
      obtain ⟨s, atom, rest, hs, hrest, rfl⟩ := History.exists_remaining_of_advance? hn
      rw [parseFirst_of_advance items hr hn]
      cases ha : admitsAny items atom with
      | true =>
        rw [History.takeIf_eq_ok _ _ hs hrest (by rw [admits, ha])]
        simp only [Option.any_some, ha, if_true]
      | false =>
        rw [History.takeIf_eq_error _ _ hs hrest (by rw [admits, ha]), expected]
        simp [ha, History.refusal_eq_mismatch hs hrest]
  | .metered _ inner =>
    rw [isSingle] at hr
    rw [parse]
    exact parse_of_isSingle inner hr h
  | .sequence _ => simp [isSingle] at hr
  | .repeated .. => simp [isSingle] at hr

theorem parseFirst_of_exhausted (rs : List Recogniser) (hrs : areSingle rs = true) {h : History}
    (hn : h.advance? = none) {fault : StructuralFault}
    (hfault : ∀ expected, h.refusal expected = .structural fault) :
    parseFirst rs h = none ∨ parseFirst rs h = some (.error (.structural fault)) := by
  match rs with
  | [] => exact .inl rfl
  | r :: rs =>
    rw [areSingle, Bool.and_eq_true] at hrs
    right
    rw [parseFirst, parse_of_isSingle r hrs.1 h]
    simp only [History.takeIf, hn, hfault]

theorem parseFirst_of_advance (rs : List Recogniser) (hrs : areSingle rs = true) {h : History}
    {next : State} (hn : h.advance? = some next) :
    parseFirst rs h =
      if next.taken.any (admitsAny rs) then some (.ok (h.push next)) else none := by
  match rs with
  | [] => cases ht : next.taken <;> simp [parseFirst, admitsAny]
  | r :: rs =>
    rw [areSingle, Bool.and_eq_true] at hrs
    obtain ⟨s, atom, rest, hs, hrest, rfl⟩ := History.exists_remaining_of_advance? hn
    have ih := parseFirst_of_advance rs hrs.2 hn
    rw [parseFirst, parse_of_isSingle r hrs.1 h]
    cases ha : r.admits atom with
    | true => simp [History.takeIf_eq_ok _ _ hs hrest ha, admitsAny, ha]
    | false => simpa [History.takeIf_eq_error _ _ hs hrest ha, admitsAny, ha] using ih

end

theorem areSingle_map_token (ts : List Token) : areSingle (ts.map .token) = true := by
  induction ts with
  | nil => rfl
  | cons t ts ih =>
    rw [List.map_cons, areSingle, ih]
    rfl

theorem admitsAny_map_token_iff (ts : List Token) (atom : Atom) :
    admitsAny (ts.map .token) atom = true ↔ ∃ t ∈ ts, t.pattern.accepts atom = true := by
  induction ts with
  | nil => simp [admitsAny]
  | cons t ts ih =>
    rw [List.map_cons, admitsAny, admits, Bool.or_eq_true, ih]
    simp only [List.mem_cons, exists_eq_or_imp]

theorem isSingle_choice_token (ts : List Token) : (choice (ts.map .token)).isSingle = true := by
  rw [isSingle, areSingle_map_token]

theorem admits_choice_token_iff (ts : List Token) (atom : Atom) :
    (choice (ts.map .token)).admits atom = true ↔ ∃ t ∈ ts, t.pattern.accepts atom = true := by
  rw [admits, admitsAny_map_token_iff]

theorem descriptors_map_token (ts : List Token) :
    descriptors (ts.map .token) = ts.map Token.shown := by
  rw [descriptors_eq_map, List.map_map]
  apply List.map_congr_left
  intro t _
  rw [Function.comp_apply, descriptor]

end Recogniser
end Swell

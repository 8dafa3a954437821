import Swell.Proofs.Recogniser.Growth
import Swell.Proofs.Recogniser.Steps

/-!
# What faults say about the input

A fault of a recogniser is raised at some place inside it, and on a history that may already have
grown. Main statements: whatever holds of a history that has grown holds, counted from there, of
the one that was given; so each fault is true of what the recogniser was asked to read, and names a
token or a choice that occurs in it.
-/
namespace Swell

theorem Recogniser.parseAll_cons (r : Recogniser) (rs : List Recogniser) (h : History) :
    parseAll (r :: rs) h = r.parse h >>= parseAll rs := by
  rw [parseAll]
  cases r.parse h <;> rfl

namespace History

variable {g h : History}

theorem isEmpty_iff (h : History) : h.isEmpty = true ↔ h.last? = none := by
  simp [isEmpty, last?]

theorem isEmpty_eq_false_iff (h : History) : h.isEmpty = false ↔ ∃ s, h.last? = some s := by
  rw [← Bool.not_eq_true, isEmpty_iff, ← Option.ne_none_iff_exists', ne_eq]

/-- Nothing is left to read at the end of the history. -/
def Exhausted (h : History) : Prop :=
  h.isEmpty = true ∨ ∃ s, h.last? = some s ∧ s.remaining = []

theorem Grows.exists_last (hg : h.Grows g) {s : State} (hs : h.last? = some s) :
    ∃ n s', g.last? = some s' ∧ s'.position = s.position + n ∧
      s'.remaining = s.remaining.drop n := by
  induction hg with
  | refl => exact ⟨0, s, hs, rfl, rfl⟩
  | @take g t t' _ ht ht' ih =>
    obtain ⟨n, u, hu, hposition, hrest⟩ := ih
    obtain rfl : t = u := Option.some.inj (ht.symm.trans hu)
    obtain ⟨atom, hnext, -, hadvanced⟩ := (t.advance?_eq_some_iff t').1 ht'
    refine ⟨n + 1, t', last?_push g t', by omega, ?_⟩
    rw [← List.tail_drop, ← hrest, hnext, List.tail_cons]

theorem Grows.eq_of_exhausted (hg : h.Grows g) (hx : h.Exhausted) : g = h := by
  induction hg with
  | refl => rfl
  | @take g s s' _ hs hs' ih =>
    rw [ih] at hs
    rcases hx with hempty | ⟨t, ht, hrest⟩
    · simp [h.isEmpty_iff.1 hempty] at hs
    · obtain rfl : s = t := Option.some.inj (hs.symm.trans ht)
      simp [s.advance?_eq_none_iff.2 hrest] at hs'

theorem Grows.isEmpty_eq (hg : h.Grows g) : g.isEmpty = h.isEmpty := by
  cases he : h.isEmpty with
  | true => rw [hg.eq_of_exhausted (.inl he), he]
  | false =>
    obtain ⟨s, hs⟩ := h.isEmpty_eq_false_iff.1 he
    obtain ⟨n, s', hs', -⟩ := hg.exists_last hs
    exact g.isEmpty_eq_false_iff.2 ⟨s', hs'⟩

/-- The fault is true of the history: a structural one says whether there are states at all, and a
mismatch has the position of an unread atom, this atom, and what is expected of such an atom. -/
def Justifies (h : History) (expects : Atom → List Descriptor → Prop) : ParseFault → Prop
  | .structural .emptyHistory => h.isEmpty = true
  | .structural .nothingRemaining => h.isEmpty = false
  | .structural .emptySentence => False
  | .mismatch position expected actual =>
    ∃ s k, h.last? = some s ∧ position = s.position + k ∧ s.remaining[k]? = some actual ∧
      expects actual expected

variable {expects expects' : Atom → List Descriptor → Prop} {f : ParseFault}

theorem Justifies.mono (hj : h.Justifies expects f)
    (himp : ∀ atom expected, expects atom expected → expects' atom expected) :
    h.Justifies expects' f := by
  match f, hj with
  | .structural .emptyHistory, hj => exact hj
  | .structural .nothingRemaining, hj => exact hj
  | .mismatch .., ⟨s, k, hs, hposition, hactual, hexpects⟩ =>
    exact ⟨s, k, hs, hposition, hactual, himp _ _ hexpects⟩

/-- What is true of a grown history is true of the one that it has grown from. -/
theorem Justifies.of_grows (hj : g.Justifies expects f) (hg : h.Grows g) :
    h.Justifies expects f := by
  match f, hj with
  | .structural .emptyHistory, hj => exact hg.isEmpty_eq.symm.trans hj
  | .structural .nothingRemaining, hj => exact hg.isEmpty_eq.symm.trans hj
  | .mismatch .., ⟨t, k, ht, hposition, hactual, hexpects⟩ =>
    have hne : h.isEmpty = false := hg.isEmpty_eq ▸ g.isEmpty_eq_false_iff.2 ⟨t, ht⟩
    obtain ⟨s, hs⟩ := h.isEmpty_eq_false_iff.1 hne
    obtain ⟨n, t', ht', hmoved, hrest⟩ := hg.exists_last hs
    obtain rfl : t = t' := Option.some.inj (ht.symm.trans ht')
    rw [hrest, List.getElem?_drop] at hactual
    exact ⟨s, n + k, hs, by omega, hactual, hexpects⟩

theorem justifies_refusal (h : History) {expected : List Descriptor}
    (hexpects : ∀ atom, expects atom expected) : h.Justifies expects (h.refusal expected) := by
  cases hs : h.last? with
  | none =>
    simp only [refusal, hs]
    exact h.isEmpty_iff.2 hs
  | some s =>
    cases hhead : s.head? with
    | none =>
      simp only [refusal, hs, hhead]
      exact h.isEmpty_eq_false_iff.2 ⟨s, hs⟩
    | some atom =>
      simp only [refusal, hs, hhead]
      rw [State.head?, List.head?_eq_getElem?] at hhead
      exact ⟨s, 0, hs, rfl, hhead, hexpects atom⟩

theorem Justifies.not_exhausted {position : Nat} {expected : List Descriptor} {actual : Atom}
    (hj : h.Justifies expects (.mismatch position expected actual)) : ¬h.Exhausted := by
  obtain ⟨s, k, hs, -, hactual, -⟩ := hj
  rintro (hempty | ⟨t, ht, hrest⟩)
  · simp [h.isEmpty_iff.1 hempty] at hs
  · obtain rfl : s = t := Option.some.inj (hs.symm.trans ht)
    simp [hrest] at hactual

/-- A fault of two steps is one of the first, or one of the second on a history that has grown. -/
theorem justifies_of_bind {first second : History → Except ParseFault History}
    (hgrows : ∀ out, first h = .ok out → h.Grows out)
    (hfirst : ∀ f, first h = .error f → h.Justifies expects f)
    (hsecond : ∀ g f, second g = .error f → g.Justifies expects f)
    (e : (first h >>= second) = .error f) : h.Justifies expects f := by
  cases hone : first h with
  | error fault =>
    rw [hone] at e
    obtain rfl : fault = f := Except.error.inj e
    exact hfirst fault hone
  | ok next =>
    rw [hone] at e
    exact (hsecond next f e).of_grows (hgrows next hone)

theorem justifies_of_stepTimes {step : History → Except ParseFault History}
    (hgrows : ∀ h out, step h = .ok out → h.Grows out)
    (hstep : ∀ h f, step h = .error f → h.Justifies expects f) (n : Nat) (h : History)
    (f : ParseFault) (e : stepTimes step n h = .error f) : h.Justifies expects f := by
  induction n generalizing h f with
  | zero => simp [stepTimes] at e
  | succ n ih =>
    rw [stepTimes_succ] at e
    exact justifies_of_bind (hgrows h) (hstep h) ih e

end History

namespace Recogniser

/-- The recogniser is another one or a part of it, at any depth. -/
inductive Occurs (p : Recogniser) : Recogniser → Prop where
  | here : Occurs p p
  | sequence {r : Recogniser} {items : List Recogniser} :
    r ∈ items → Occurs p r → Occurs p (.sequence items)
  | choice {r : Recogniser} {items : List Recogniser} :
    r ∈ items → Occurs p r → Occurs p (.choice items)
  | repeated {count : Nat} {unit : Recogniser} :
    Occurs p unit → Occurs p (.repeated count unit)
  | metered {meter : Nat} {inner : Recogniser} :
    Occurs p inner → Occurs p (.metered meter inner)

/-- The recogniser can say of an atom that something else was expected: a token of it that does not
accept the atom says what the token shows, and a choice of it names all its items. -/
def Expects (r : Recogniser) (atom : Atom) (expected : List Descriptor) : Prop :=
  (∃ t, (token t).Occurs r ∧ t.pattern.accepts atom = false ∧ expected = [t.shown]) ∨
    ∃ items, (choice items).Occurs r ∧ expected = items.map descriptor

def AnyExpects (rs : List Recogniser) (atom : Atom) (expected : List Descriptor) : Prop :=
  ∃ r ∈ rs, r.Expects atom expected

variable {r p : Recogniser} {rs items : List Recogniser} {atom : Atom} {expected : List Descriptor}

theorem Expects.of_part (hp : p.Expects atom expected)
    (hpart : ∀ q : Recogniser, q.Occurs p → q.Occurs r) : r.Expects atom expected := by
  rcases hp with ⟨t, ht, hrefused, hshown⟩ | ⟨items, hitems, hall⟩
  · exact .inl ⟨t, hpart _ ht, hrefused, hshown⟩
  · exact .inr ⟨items, hpart _ hitems, hall⟩

theorem AnyExpects.sequence (ha : AnyExpects items atom expected) :
    (Recogniser.sequence items).Expects atom expected := by
  obtain ⟨r, hr, hexpects⟩ := ha
  exact hexpects.of_part fun _ => .sequence hr

theorem AnyExpects.choice (ha : AnyExpects items atom expected) :
    (Recogniser.choice items).Expects atom expected := by
  obtain ⟨r, hr, hexpects⟩ := ha
  exact hexpects.of_part fun _ => .choice hr

theorem AnyExpects.tail (ha : AnyExpects rs atom expected) :
    AnyExpects (r :: rs) atom expected := by
  obtain ⟨p, hp, hexpects⟩ := ha
  exact ⟨p, List.mem_cons_of_mem r hp, hexpects⟩

theorem AnyExpects.head (hr : r.Expects atom expected) : AnyExpects (r :: rs) atom expected :=
  ⟨r, List.mem_cons_self, hr⟩

end Recogniser

theorem Token.justifies_of_take (t : Token) (h : History) (f : ParseFault)
    (e : t.take h = .error f) : h.Justifies (Recogniser.token t).Expects f := by
  unfold take at e
  cases hs : h.last? with
  | none =>
    simp [hs] at e
    subst e
    exact h.isEmpty_iff.2 hs
  | some s =>
    cases hr : s.remaining with
    | nil =>
      simp [hs, hr] at e
      subst e
      exact h.isEmpty_eq_false_iff.2 ⟨s, hs⟩
    | cons atom rest =>
      by_cases ha : t.pattern.accepts atom = true
      · simp [hs, hr, ha] at e
      · simp [hs, hr, ha] at e
        subst e
        refine ⟨s, 0, hs, rfl, by simp [hr], .inl ⟨t, .here, by simpa using ha, rfl⟩⟩

namespace Recogniser

mutual

/-- A fault is true of the history that the recogniser was given. In a choice the faults of single
items are lost, and what replaces them speaks of the place where the choice began. -/
theorem justifies_of_parse (r : Recogniser) (h : History) (f : ParseFault)
    (e : r.parse h = .error f) : h.Justifies r.Expects f := by
  match r with
  | .token t =>
    rw [parse] at e
    exact t.justifies_of_take h f e
  | .sequence items =>
    rw [parse] at e
    exact (justifies_of_parseAll items h f e).mono fun _ _ => AnyExpects.sequence
  | .choice items =>
    rw [parse] at e
    split at e
    · next result hresult =>
      subst e
      exact (justifies_of_parseFirst items h f hresult).mono fun _ _ => AnyExpects.choice
    · -- all items were passed over, and the choice speaks for itself
      obtain rfl := Except.error.inj e
      exact h.justifies_refusal fun _ => .inr ⟨items, .here, descriptors_eq_map items⟩
  | .repeated count unit =>
    rw [parse] at e
    refine History.justifies_of_stepTimes unit.grows_of_parse (fun h f e => ?_) count h f e
    exact (justifies_of_parse unit h f e).mono fun _ _ hu => hu.of_part fun _ => .repeated
  | .metered _ inner =>
    rw [parse] at e
    exact (justifies_of_parse inner h f e).mono fun _ _ hi => hi.of_part fun _ => .metered

theorem justifies_of_parseAll (rs : List Recogniser) (h : History) (f : ParseFault)
    (e : parseAll rs h = .error f) : h.Justifies (AnyExpects rs) f := by
  match rs with
  | [] => simp [parseAll] at e
  | r :: rs =>
    rw [parseAll_cons] at e
    refine History.justifies_of_bind (r.grows_of_parse h) (fun f e => ?_) (fun g f e => ?_) e
    · exact (justifies_of_parse r h f e).mono fun _ _ => AnyExpects.head
    · exact (justifies_of_parseAll rs g f e).mono fun _ _ => AnyExpects.tail

theorem justifies_of_parseFirst (rs : List Recogniser) (h : History) (f : ParseFault)
    (e : parseFirst rs h = some (.error f)) : h.Justifies (AnyExpects rs) f := by
  match rs with
  | [] => simp [parseFirst] at e
  | r :: rs =>
    rw [parseFirst] at e
    split at e
    · simp at e
    · next fault hfault =>
      obtain rfl : ParseFault.structural fault = f := by simpa using e
      exact (justifies_of_parse r h _ hfault).mono fun _ _ => AnyExpects.head
    · exact (justifies_of_parseFirst rs h f e).mono fun _ _ => AnyExpects.tail

end

theorem not_mismatch_of_exhausted (r : Recogniser) {h : History} (hx : h.Exhausted)
    (position : Nat) (expected : List Descriptor) (actual : Atom) :
    r.parse h ≠ .error (.mismatch position expected actual) :=
  fun e => (r.justifies_of_parse h _ e).not_exhausted hx

end Recogniser

/-- A mismatch has the position of an unread atom, this atom, and what a token that refuses it or a
choice among the parts of the recogniser expects. A structural fault tells whether the history has
states. Where nothing is left to read there is no mismatch, and nothing is taken. -/
theorem faults_are_true_of_the_history (r : Recogniser) (h : History) :
    (∀ position expected actual, r.parse h = .error (.mismatch position expected actual) →
      ∃ s k, h.last? = some s ∧ k < s.remaining.length ∧ position = s.position + k ∧
        s.remaining[k]? = some actual ∧
        ((∃ t, (Recogniser.token t).Occurs r ∧ t.pattern.accepts actual = false ∧
            expected = [t.shown]) ∨
          ∃ items, (Recogniser.choice items).Occurs r ∧
            expected = items.map Recogniser.descriptor)) ∧
    (r.parse h = .error (.structural .emptyHistory) → h.isEmpty = true) ∧
    (r.parse h = .error (.structural .nothingRemaining) → h.isEmpty = false) ∧
    r.parse h ≠ .error (.structural .emptySentence) ∧
    (h.isEmpty = true ∨ (∃ s, h.last? = some s ∧ s.remaining = []) →
      (∀ position expected actual,
        r.parse h ≠ .error (.mismatch position expected actual)) ∧
      ∀ out, r.parse h = .ok out → out = h) := by
  refine ⟨?_, fun e => r.justifies_of_parse h _ e, fun e => r.justifies_of_parse h _ e,
    fun e => r.justifies_of_parse h _ e, fun hx => ⟨r.not_mismatch_of_exhausted hx, ?_⟩⟩
  · intro position expected actual e
    obtain ⟨s, k, hs, hposition, hactual, hexpects⟩ := r.justifies_of_parse h _ e
    have hk : k < s.remaining.length := (List.getElem?_eq_some_iff.1 hactual).1
    exact ⟨s, k, hs, hk, hposition, hactual, hexpects⟩
  · intro out e
    exact (r.grows_of_parse h out e).eq_of_exhausted hx

/-- Behind a flat word the choice finds neither a peak nor a separator. -/
theorem flatThenPeak_fault_names_unread_atom :
    ∃ s k, (History.ofAtoms ["F", " ", "X"]).last? = some s ∧ k < s.remaining.length ∧
      2 = s.position + k ∧ s.remaining[k]? = some "X" := by
  have hrun : flatThenPeak.parse (History.ofAtoms ["F", " ", "X"]) =
      .error (.mismatch 2 [.pattern "[P]", .pattern "[\\s]"] "X") := rfl
  obtain ⟨s, k, hs, hk, hposition, hactual, -⟩ :=
    (faults_are_true_of_the_history flatThenPeak (.ofAtoms ["F", " ", "X"])).1 _ _ _ hrun
  exact ⟨s, k, hs, hk, hposition, hactual⟩

end Swell

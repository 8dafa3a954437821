import Mathlib.Data.List.Forall2
import Swell.Proofs.Recogniser.Faults

/-!
# The same atoms read from different histories

A recogniser looks at a history through its last state, and there only at the unread atoms; it
copies the position into faults and counts it on in new states, and never decides by it. Main
statements: two readings of the same unread atoms go on side by side, whatever stands in front of
them in the two histories; what they add, or the fault they end in, differs in positions alone, and
by the same distance everywhere.
-/
namespace Swell

/-- The states agree, apart from their positions, which are as far apart as `p` and `q`. -/
structure State.Shifted (p q : Nat) (s t : State) : Prop where
  taken : s.taken = t.taken
  remaining : s.remaining = t.remaining
  position : s.position + q = t.position + p

namespace History

/-- The same atoms are unread in both histories, at positions as far apart as `p` and `q`. -/
def SameUnread (p q : Nat) (g h : History) : Prop :=
  ∃ s t, g.last? = some s ∧ h.last? = some t ∧ s.remaining = t.remaining ∧
    s.position + q = t.position + p

/-- The third and the fourth history arise from the first two by states that agree one by one. -/
inductive GrowAlike (p q : Nat) (g h : History) : History → History → Prop where
  | refl : GrowAlike p q g h g h
  | push {g' h' : History} {s t : State} :
    GrowAlike p q g h g' h' → s.Shifted p q t → GrowAlike p q g h (g'.push s) (h'.push t)

variable {p q : Nat} {g h g' h' g'' h'' : History}

theorem GrowAlike.trans (hone : GrowAlike p q g h g' h') (htwo : GrowAlike p q g' h' g'' h'') :
    GrowAlike p q g h g'' h'' := by
  induction htwo with
  | refl => exact hone
  | push _ hst ih => exact .push ih hst

theorem GrowAlike.sameUnread (hgrow : GrowAlike p q g h g' h') (hgh : SameUnread p q g h) :
    SameUnread p q g' h' := by
  cases hgrow with
  | refl => exact hgh
  | @push _ _ s t _ hst => exact ⟨s, t, rfl, rfl, hst.remaining, hst.position⟩

theorem GrowAlike.exists_added (hgrow : GrowAlike p q g h g' h') :
    ∃ added added', g'.toList = g.toList ++ added ∧ h'.toList = h.toList ++ added' ∧
      List.Forall₂ (State.Shifted p q) added added' := by
  induction hgrow with
  | refl => exact ⟨[], [], by simp, by simp, .nil⟩
  | @push _ _ s t _ hst ih =>
    obtain ⟨added, added', hg, hh, hall⟩ := ih
    refine ⟨added ++ [s], added' ++ [t], by simp [hg], by simp [hh], ?_⟩
    exact List.rel_append hall (.cons hst .nil)

/-- How two readings end that differ in positions alone. -/
inductive EndAlike (p q : Nat) (g h : History) :
    Except ParseFault History → Except ParseFault History → Prop where
  | read {g' h' : History} : GrowAlike p q g h g' h' → EndAlike p q g h (.ok g') (.ok h')
  | structural (fault : StructuralFault) :
    EndAlike p q g h (.error (.structural fault)) (.error (.structural fault))
  | mismatch {i j : Nat} (expected : List Descriptor) (actual : Atom) : i + q = j + p →
    EndAlike p q g h (.error (.mismatch i expected actual)) (.error (.mismatch j expected actual))

theorem EndAlike.of_grown {a b : Except ParseFault History} (hab : EndAlike p q g' h' a b)
    (hgrow : GrowAlike p q g h g' h') : EndAlike p q g h a b := by
  cases hab with
  | read hmore => exact .read (hgrow.trans hmore)
  | structural fault => exact .structural fault
  | mismatch expected actual hpos => exact .mismatch expected actual hpos

theorem SameUnread.refusal (hgh : SameUnread p q g h) (expected : List Descriptor) :
    EndAlike p q g h (.error (g.refusal expected)) (.error (h.refusal expected)) := by
  obtain ⟨s, t, hs, ht, hrest, hpos⟩ := hgh
  cases hr : t.remaining with
  | nil =>
    rw [hr] at hrest
    simp only [History.refusal, hs, ht, State.head?, hrest, hr, List.head?_nil]
    exact .structural .nothingRemaining
  | cons atom rest =>
    rw [hr] at hrest
    simp only [History.refusal, hs, ht, State.head?, hrest, hr, List.head?_cons]
    exact .mismatch expected atom hpos

/-- The step does the same wherever the same atoms are unread. -/
def Uniform (step : History → Except ParseFault History) : Prop :=
  ∀ p q g h, SameUnread p q g h → EndAlike p q g h (step g) (step h)

theorem uniform_ok : Uniform .ok :=
  fun _ _ _ _ _ => .read .refl

/-- The second step starts from histories that have grown alike, so it sees the same atoms again. -/
theorem Uniform.bind {first second : History → Except ParseFault History}
    (hfirst : Uniform first) (hsecond : Uniform second) :
    Uniform fun h => first h >>= second := by
  intro p q g h hgh
  have hone := hfirst p q g h hgh
  change EndAlike p q g h (first g >>= second) (first h >>= second)
  generalize first g = a, first h = b at hone
  cases hone with
  | read hgrow => exact (hsecond p q _ _ (hgrow.sameUnread hgh)).of_grown hgrow
  | structural fault => exact .structural fault
  | mismatch expected actual hpos => exact .mismatch expected actual hpos

theorem uniform_stepTimes {step : History → Except ParseFault History} (hstep : Uniform step)
    (count : Nat) : Uniform (stepTimes step count) := by
  induction count with
  | zero => exact uniform_ok
  | succ count ih =>
    rw [show stepTimes step (count + 1) = _ from funext (stepTimes_succ step count)]
    exact hstep.bind ih

end History

theorem Token.uniform_take (t : Token) : History.Uniform t.take := by
  intro p q g h hgh
  obtain ⟨s, u, hs, hu, hrest, hpos⟩ := hgh
  cases hr : u.remaining with
  | nil =>
    rw [hr] at hrest
    simp only [take, hs, hu, hrest, hr]
    exact .structural .nothingRemaining
  | cons atom rest =>
    rw [hr] at hrest
    simp only [take, hs, hu, hrest, hr]
    by_cases ha : t.pattern.accepts atom = true
    · simp only [ha, if_true]
      exact .read (.push .refl ⟨rfl, rfl, by simp only; omega⟩)
    · simp only [ha]
      exact .mismatch [t.shown] atom hpos

namespace Recogniser

mutual

/-- No recogniser looks past the unread atoms at what else its history holds. -/
theorem uniform_parse (r : Recogniser) : History.Uniform r.parse := by
  intro p q g h hgh
  match r with
  | .token t =>
    simp only [parse]
    exact t.uniform_take p q g h hgh
  | .sequence items =>
    simp only [parse]
    exact uniform_parseAll items p q g h hgh
  | .choice items =>
    have hfirst := uniform_parseFirst items p q g h hgh
    simp only [parse]
    generalize parseFirst items g = a, parseFirst items h = b at hfirst
    cases hfirst with
    | none => exact hgh.refusal (descriptors items)
    | some hab => exact hab
  | .repeated count unit =>
    simp only [parse]
    exact History.uniform_stepTimes (uniform_parse unit) count p q g h hgh
  | .metered _ inner =>
    simp only [parse]
    exact uniform_parse inner p q g h hgh

theorem uniform_parseAll (rs : List Recogniser) : History.Uniform (parseAll rs) := by
  match rs with
  | [] => exact History.uniform_ok
  | r :: rs =>
    rw [show parseAll (r :: rs) = _ from funext (parseAll_cons r rs)]
    exact (uniform_parse r).bind (uniform_parseAll rs)

theorem uniform_parseFirst (rs : List Recogniser) (p q : Nat) (g h : History)
    (hgh : History.SameUnread p q g h) :
    Option.Rel (History.EndAlike p q g h) (parseFirst rs g) (parseFirst rs h) := by
  match rs with
  | [] => exact .none
  | r :: rs =>
    have hone := uniform_parse r p q g h hgh
    have hrest := uniform_parseFirst rs p q g h hgh
    simp only [parseFirst]
    generalize r.parse g = a, r.parse h = b at hone
    cases hone with
    | read hgrow => exact .some (.read hgrow)
    | structural fault => exact .some (.structural fault)
    | mismatch expected actual hpos => exact hrest

end

end Recogniser

/-- Two histories in which the same atoms are unread, at positions of their own and behind any
states. A recogniser adds as many states to both, or fails on both with the same fault; what was
taken, what is left and what was expected are the same, and positions keep their distance. -/
theorem only_unread_atoms_decide (r : Recogniser) (g h : History) (s t : State)
    (hs : g.last? = some s) (ht : h.last? = some t) (hst : s.remaining = t.remaining) :
    (∃ g' h' added added', r.parse g = .ok g' ∧ r.parse h = .ok h' ∧
      g'.toList = g.toList ++ added ∧ h'.toList = h.toList ++ added' ∧
      List.Forall₂ (fun a b => a.taken = b.taken ∧ a.remaining = b.remaining ∧
        a.position + t.position = b.position + s.position) added added') ∨
    (∃ fault, r.parse g = .error (.structural fault) ∧
      r.parse h = .error (.structural fault)) ∨
    ∃ i j expected actual, r.parse g = .error (.mismatch i expected actual) ∧
      r.parse h = .error (.mismatch j expected actual) ∧ i + t.position = j + s.position := by
  have hgh : History.SameUnread s.position t.position g h :=
    ⟨s, t, hs, ht, hst, Nat.add_comm _ _⟩
  have hends := r.uniform_parse s.position t.position g h hgh
  generalize r.parse g = a, r.parse h = b at hends
  cases hends with
  | @read g' h' hgrow =>
    left
    obtain ⟨added, added', hg, hh, hall⟩ := hgrow.exists_added
    exact ⟨g', h', added, added', rfl, rfl, hg, hh,
      hall.imp fun _ _ hab => ⟨hab.taken, hab.remaining, hab.position⟩⟩
  | structural fault => exact .inr (.inl ⟨fault, rfl, rfl⟩)
  | @mismatch i j expected actual hpos =>
    exact .inr (.inr ⟨i, j, expected, actual, rfl, rfl, hpos⟩)

/-- At position seven, behind a state that no reading leaves, the same word is refused as at the
start, seven positions further on. -/
theorem flatThenPeak_refuses_alike_behind_other_states :
    (History.ofAtoms ["F", " ", "X"]).last? = some ⟨["F", " ", "X"], none, 0⟩ ∧
    (History.ofStates [⟨[], some "P", 3⟩, ⟨["F", " ", "X"], some "T", 7⟩]).last? =
      some ⟨["F", " ", "X"], some "T", 7⟩ ∧
    flatThenPeak.parse (.ofStates [⟨[], some "P", 3⟩, ⟨["F", " ", "X"], some "T", 7⟩]) =
      .error (.mismatch 9 [.pattern "[P]", .pattern "[\\s]"] "X") := by
  have hg : (History.ofAtoms ["F", " ", "X"]).last? = some ⟨["F", " ", "X"], none, 0⟩ := rfl
  have hh : (History.ofStates [⟨[], some "P", 3⟩, ⟨["F", " ", "X"], some "T", 7⟩]).last? =
      some ⟨["F", " ", "X"], some "T", 7⟩ := rfl
  have hrun : flatThenPeak.parse (History.ofAtoms ["F", " ", "X"]) =
      .error (.mismatch 2 [.pattern "[P]", .pattern "[\\s]"] "X") := rfl
  refine ⟨hg, hh, ?_⟩
  rcases only_unread_atoms_decide flatThenPeak _ _ _ _ hg hh rfl with
    ⟨g', h', added, added', hread, -⟩ | ⟨fault, hread, -⟩ |
    ⟨i, j, expected, actual, hread, hrefused, hpos⟩
  · simp [hrun] at hread
  · simp [hrun] at hread
  · rw [hrun] at hread
    obtain ⟨rfl, rfl, rfl⟩ : 2 = i ∧ _ = expected ∧ "X" = actual := by simpa using hread
    obtain rfl : j = 9 := by simpa using hpos.symm
    exact hrefused

end Swell

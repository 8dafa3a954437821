import Swell.Proofs.Recogniser.Faults

/-!
# Atoms behind those that are read

More atoms behind the unread ones change nothing for a recogniser that does not come to their end.
Main statements: one equation for the results with and without further atoms, for every recogniser;
and from it that all that can change is the fault of finding nothing more to read. It holds because
a choice stops at this fault: another item might read on with fewer atoms.
-/
namespace Swell

def State.followedBy (s : State) (later : List Atom) : State :=
  { s with remaining := s.remaining ++ later }

namespace History

variable (later : List Atom)

/-- The history with more atoms to read in its states from an index on. -/
def followedFrom (n : Nat) (h : History) : History :=
  ofStates (h.toList.mapIdx fun i s => if n ≤ i then s.followedBy later else s)

variable {later} {n : Nat} {g h : History}

theorem toList_followedFrom (n : Nat) (h : History) :
    (h.followedFrom later n).toList =
      h.toList.mapIdx fun i s => if n ≤ i then s.followedBy later else s := by
  rw [followedFrom, toList_ofStates]

theorem toList_followedFrom_of_append (hn : n ≤ g.length) {added : List State}
    (he : h.toList = g.toList ++ added) :
    (h.followedFrom later n).toList =
      (g.followedFrom later n).toList ++ added.map fun s => s.followedBy later := by
  rw [toList_followedFrom, he, List.mapIdx_append, toList_followedFrom]
  congr 1
  ext i : 1
  have hi : n ≤ i + g.length := by omega
  simp [hi]

theorem followedFrom_push (hn : n ≤ h.length) (s : State) :
    (h.push s).followedFrom later n = (h.followedFrom later n).push (s.followedBy later) := by
  apply toList_injective
  rw [toList_followedFrom_of_append hn (toList_push h s), toList_push]
  rfl

theorem followedFrom_of_length_le (hn : h.length ≤ n) : h.followedFrom later n = h := by
  apply toList_injective
  rw [toList_followedFrom]
  ext i : 1
  rw [List.getElem?_mapIdx]
  by_cases hi : n ≤ i
  · rw [List.getElem?_eq_none (by rw [length_toList]; omega), Option.map_none]
  · simp [hi]

theorem followedFrom_length_push (h : History) (s : State) :
    (h.push s).followedFrom later h.length = h.push (s.followedBy later) := by
  rw [followedFrom_push (Nat.le_refl _), followedFrom_of_length_le (Nat.le_refl _)]

theorem last?_followedFrom (hn : n < h.length) :
    (h.followedFrom later n).last? = h.last?.map fun s => s.followedBy later := by
  obtain ⟨states⟩ := h
  cases states with
  | nil => simp [History.length] at hn
  | cons s older =>
    have hpush : (⟨s :: older⟩ : History) = (⟨older⟩ : History).push s := rfl
    rw [hpush, followedFrom_push (Nat.le_of_lt_succ hn)]
    rfl

/-- A place where an atom is refused is refused in the same way with more atoms behind it. -/
theorem refusal_followedFrom (hn : n < h.length) {expected : List Descriptor}
    (hr : h.refusal expected ≠ .structural .nothingRemaining) :
    (h.followedFrom later n).refusal expected = h.refusal expected := by
  cases hs : h.last? with
  | none => simp [refusal, last?_followedFrom hn, hs]
  | some s =>
    cases hrest : s.remaining with
    | nil => simp [refusal, hs, State.head?, hrest] at hr
    | cons atom rest =>
      simp [refusal, last?_followedFrom hn, hs, State.head?, State.followedBy, hrest]

/-- Unless the step comes to the end of the atoms, it decides alike with more atoms behind. -/
def Steady (later : List Atom) (step : History → Except ParseFault History) : Prop :=
  ∀ n h, n < h.length → step h ≠ .error (.structural .nothingRemaining) →
    step (h.followedFrom later n) = (step h).map (followedFrom later n)

theorem Grows.length_le (hg : h.Grows g) : h.length ≤ g.length := by
  rw [← length_toList, ← length_toList]
  exact hg.isPrefix.length_le

theorem Steady.bind {first second : History → Except ParseFault History}
    (hgrows : ∀ h out, first h = .ok out → h.Grows out) (hfirst : Steady later first)
    (hsecond : Steady later second) : Steady later fun h => first h >>= second := by
  intro n h hn hr
  have hone := hfirst n h hn
  cases e : first h with
  | error f =>
    simp only [e] at hr hone ⊢
    rw [hone hr]
    rfl
  | ok next =>
    have hnext : n < next.length := Nat.lt_of_lt_of_le hn (hgrows h next e).length_le
    simp only [e] at hr hone ⊢
    rw [hone nofun]
    exact hsecond n next hnext hr

theorem steady_stepTimes {step : History → Except ParseFault History}
    (hgrows : ∀ h out, step h = .ok out → h.Grows out) (hstep : Steady later step) (count : Nat) :
    Steady later (stepTimes step count) := by
  induction count with
  | zero => exact fun _ _ _ _ => rfl
  | succ count ih =>
    rw [show stepTimes step (count + 1) = _ from funext (stepTimes_succ step count)]
    exact hstep.bind hgrows ih

end History

theorem Token.steady_take (t : Token) (later : List Atom) : History.Steady later t.take := by
  intro n h hn hr
  cases hs : h.last? with
  | none => simp [take, History.last?_followedFrom hn, hs, Except.map]
  | some s =>
    cases hrest : s.remaining with
    | nil => simp [take, hs, hrest] at hr
    | cons atom rest =>
      by_cases ha : t.pattern.accepts atom = true
      · simp [take, History.last?_followedFrom hn, hs, State.followedBy, hrest, ha, Except.map,
          History.followedFrom_push (Nat.le_of_lt hn)]
      · simp [take, History.last?_followedFrom hn, hs, State.followedBy, hrest, ha, Except.map]

namespace Recogniser

mutual

/-- A recogniser decides by the atoms that it reads. -/
theorem steady_parse (r : Recogniser) (later : List Atom) : History.Steady later r.parse := by
  intro n h hn hr
  match r with
  | .token t =>
    simp only [parse] at hr ⊢
    exact t.steady_take later n h hn hr
  | .sequence items =>
    simp only [parse] at hr ⊢
    exact steady_parseAll items later n h hn hr
  | .choice items =>
    cases e : parseFirst items h with
    | none =>
      have hnone := steady_parseFirst items later n h hn (by simp [e])
      simp only [e, Option.map_none] at hnone
      simp only [parse, e] at hr
      simp only [parse, e, hnone, Except.map]
      rw [History.refusal_followedFrom hn fun he => hr (congrArg Except.error he)]
    | some result =>
      simp only [parse, e] at hr
      have hsome := steady_parseFirst items later n h hn (by simpa [e] using hr)
      simp only [e, Option.map_some] at hsome
      simp only [parse, e, hsome]
  | .repeated count unit =>
    simp only [parse] at hr ⊢
    exact History.steady_stepTimes unit.grows_of_parse (steady_parse unit later) count n h hn hr
  | .metered _ inner =>
    simp only [parse] at hr ⊢
    exact steady_parse inner later n h hn hr

theorem steady_parseAll (rs : List Recogniser) (later : List Atom) :
    History.Steady later (parseAll rs) := by
  match rs with
  | [] => exact fun _ _ _ _ => rfl
  | r :: rs =>
    rw [show parseAll (r :: rs) = _ from funext (parseAll_cons r rs)]
    exact (steady_parse r later).bind r.grows_of_parse (steady_parseAll rs later)

theorem steady_parseFirst (rs : List Recogniser) (later : List Atom) (n : Nat) (h : History)
    (hn : n < h.length) (hr : parseFirst rs h ≠ some (.error (.structural .nothingRemaining))) :
    parseFirst rs (h.followedFrom later n) =
      (parseFirst rs h).map (Except.map (History.followedFrom later n)) := by
  match rs with
  | [] => rfl
  | r :: rs =>
    have hone : r.parse h ≠ .error (.structural .nothingRemaining) := by
      intro e
      simp [parseFirst, e] at hr
    have hfirst := steady_parse r later n h hn hone
    match e : r.parse h with
    | .ok next =>
      rw [e] at hfirst
      simp [parseFirst, e, hfirst, Except.map]
    | .error (.structural fault) =>
      rw [e] at hfirst
      simp [parseFirst, e, hfirst, Except.map]
    | .error (.mismatch ..) =>
      rw [e] at hfirst
      -- the item is passed over again, and the others stand before the same history
      simp only [parseFirst, e] at hr
      simp only [parseFirst, e, hfirst, Except.map]
      exact steady_parseFirst rs later n h hn hr

end

end Recogniser

/-- More atoms behind the unread ones of the last state. What was read is read again, and all of it
is still in front of them; what was refused is refused again, with the same words. A recogniser that
found nothing more to read is the only one that may decide otherwise. -/
theorem unread_atoms_change_no_decision (r : Recogniser) (older : History) (s : State)
    (later : List Atom) :
    (∀ out, r.parse (older.push s) = .ok out →
      ∃ added out', out.toList = (older.push s).toList ++ added ∧
        r.parse (older.push (s.followedBy later)) = .ok out' ∧
        out'.toList = (older.push (s.followedBy later)).toList ++
          added.map fun t => ⟨t.remaining ++ later, t.taken, t.position⟩) ∧
    (∀ position expected actual,
      r.parse (older.push s) = .error (.mismatch position expected actual) →
      r.parse (older.push (s.followedBy later)) =
        .error (.mismatch position expected actual)) ∧
    ∀ fault, r.parse (older.push s) = .error (.structural fault) → fault = .nothingRemaining := by
  have hn : older.length < (older.push s).length := by simp
  have hsteady := r.steady_parse later older.length (older.push s) hn
  rw [History.followedFrom_length_push] at hsteady
  refine ⟨fun out e => ?_, fun position expected actual e => ?_, fun fault e => ?_⟩
  · obtain ⟨added, hadded⟩ := (r.grows_of_parse _ _ e).isPrefix
    rw [e] at hsteady
    refine ⟨added, out.followedFrom later older.length, hadded.symm, hsteady nofun, ?_⟩
    rw [History.toList_followedFrom_of_append (Nat.le_of_lt hn) hadded.symm,
      History.followedFrom_length_push]
    rfl
  · rw [e] at hsteady
    exact hsteady nofun
  · have htrue := r.justifies_of_parse _ _ e
    match fault, htrue with
    | .emptyHistory, hempty => cases hempty
    | .nothingRemaining, _ => rfl

/-- A flat word, a separator and a peak, with and without a word behind them. -/
theorem flatThenPeak_ignores_atoms_behind :
    (∃ (added : List State) (out' : History), added.length = 3 ∧
      flatThenPeak.parse (.ofAtoms ["F", " ", "P", "X"]) = .ok out' ∧
      out'.toList = (History.ofAtoms ["F", " ", "P", "X"]).toList ++
        added.map fun t => ⟨t.remaining ++ ["X"], t.taken, t.position⟩) ∧
    flatThenPeak.parse (.ofAtoms ["F", "X", "P"]) =
      .error (.mismatch 1 [.pattern "[P]", .pattern "[\\s]"] "X") := by
  have hread : flatThenPeak.parse ((⟨[]⟩ : History).push (.start ["F", " ", "P"])) =
      .ok (History.ofStates [⟨["F", " ", "P"], none, 0⟩, ⟨[" ", "P"], some "F", 1⟩,
        ⟨["P"], some " ", 2⟩, ⟨[], some "P", 3⟩]) := rfl
  have hrefused : flatThenPeak.parse ((⟨[]⟩ : History).push (.start ["F", "X"])) =
      .error (.mismatch 1 [.pattern "[P]", .pattern "[\\s]"] "X") := rfl
  obtain ⟨added, out', hadded, hout, hlist⟩ :=
    (unread_atoms_change_no_decision flatThenPeak ⟨[]⟩ (.start ["F", " ", "P"]) ["X"]).1 _ hread
  refine ⟨⟨added, out', ?_, hout, hlist⟩, ?_⟩
  · have hlength := congrArg List.length hadded
    rw [History.toList_ofStates, List.length_append, History.length_toList] at hlength
    exact (Nat.add_left_cancel hlength).symm
  · exact (unread_atoms_change_no_decision flatThenPeak ⟨[]⟩ (.start ["F", "X"]) ["P"]).2.1
      _ _ _ hrefused

end Swell

import Swell.Proofs.History.Growth
import Swell.Recogniser

/-!
# Recognisers only let histories grow

Whatever a recogniser is built from, a history that it returns has grown from the one that it was
given. Main statements: this growth for every recogniser; and the account that every history keeps
which readings of a sentence can lead to, in any number and any order.
-/
namespace Swell

theorem grows_of_stepTimes {step : History → Except ParseFault History}
    (hstep : ∀ h out, step h = .ok out → h.Grows out) (n : Nat) (h out : History)
    (e : stepTimes step n h = .ok out) : h.Grows out := by
  induction n generalizing h with
  | zero =>
    obtain rfl : h = out := by simpa [stepTimes] using e
    exact .refl
  | succ n ih =>
    rw [stepTimes] at e
    split at e
    · next next hnext => exact (hstep h next hnext).trans (ih next e)
    · cases e

theorem Token.grows_of_take (t : Token) (h out : History) (e : t.take h = .ok out) :
    h.Grows out := by
  obtain ⟨s, s', hs, -, hs', rfl⟩ := (t.take_eq_ok_iff h out).1 e
  exact .take .refl hs hs'

namespace Recogniser

mutual

/-- What a recogniser returns has grown from what it was given. Items of a choice that do not fit
leave nothing behind, since each item starts from the history that the choice was given. -/
theorem grows_of_parse (r : Recogniser) (h out : History) (e : r.parse h = .ok out) :
    h.Grows out := by
  match r with
  | .token t =>
    rw [parse] at e
    exact t.grows_of_take h out e
  | .sequence items =>
    rw [parse] at e
    exact grows_of_parseAll items h out e
  | .choice items =>
    rw [parse] at e
    split at e
    · next result hresult =>
      subst e
      exact grows_of_parseFirst items h out hresult
    · cases e
  | .repeated count unit =>
    rw [parse] at e
    exact grows_of_stepTimes (fun h out e => grows_of_parse unit h out e) count h out e
  | .metered _ inner =>
    rw [parse] at e
    exact grows_of_parse inner h out e

theorem grows_of_parseAll (rs : List Recogniser) (h out : History)
    (e : parseAll rs h = .ok out) : h.Grows out := by
  match rs with
  | [] =>
    obtain rfl : h = out := by simpa [parseAll] using e
    exact .refl
  | r :: rs =>
    rw [parseAll] at e
    split at e
    · next next hnext =>
      exact (grows_of_parse r h next hnext).trans (grows_of_parseAll rs next out e)
    · cases e

theorem grows_of_parseFirst (rs : List Recogniser) (h out : History)
    (e : parseFirst rs h = some (.ok out)) : h.Grows out := by
  match rs with
  | [] => simp [parseFirst] at e
  | r :: rs =>
    rw [parseFirst] at e
    split at e
    · next next hnext =>
      obtain rfl : next = out := by simpa using e
      exact grows_of_parse r h next hnext
    · simp at e
    · exact grows_of_parseFirst rs h out e

end

end Recogniser

namespace History

/-- The histories of a sentence that readings lead to, with recognisers of any kind in any order,
or by taking one more atom whatever it is. -/
inductive Reached (s : Sentence) : History → Prop where
  | start : Reached s (ofSentence s)
  | parse {h out : History} (r : Recogniser) :
    Reached s h → r.parse h = .ok out → Reached s out
  | advance {h : History} {last next : State} :
    Reached s h → h.last? = some last → last.advance? = some next → Reached s (h.push next)

theorem Reached.grows {s : Sentence} {h : History} (hr : Reached s h) :
    (ofSentence s).Grows h := by
  induction hr with
  | start => exact .refl
  | parse r _ e ih => exact ih.trans (r.grows_of_parse _ _ e)
  | advance _ hs hs' ih => exact .take ih hs hs'

theorem Reached.reads {s : Sentence} {h : History} (hr : Reached s h) : h.Reads s.atoms :=
  (reads_ofAtoms s.atoms).grows hr.grows

end History

/-- A recogniser returns the history that it was given, with advances of its last state behind it;
so a history that readings of a sentence lead to accounts for every atom of the sentence. -/
theorem parse_appends_advances :
    (∀ (r : Recogniser) (h out : History), r.parse h = .ok out →
      h.toList <+: out.toList ∧
        ∀ i s', h.length ≤ i → out.get? i = some s' →
          ∃ j s, i = j + 1 ∧ out.get? j = some s ∧ s.advance? = some s') ∧
    ∀ (s : Sentence) (h : History), h.Reached s →
      h.isEmpty = false ∧
      (∀ i state, h.get? i = some state → state.position = i) ∧
      (∀ state, h.get? 0 = some state → state.taken = none) ∧
      (∃ last, h.last? = some last ∧ h.consumed ++ last.remaining = s.atoms) ∧
      h.length = h.consumed.length + 1 ∧
      (h.isComplete = true ↔ h.length = s.atoms.length + 1) := by
  constructor
  · intro r h out e
    have hg := r.grows_of_parse h out e
    exact ⟨hg.isPrefix, fun i s' hi hs' => hg.advance_of_added hi hs'⟩
  · intro s h hr
    have hreads := hr.reads
    exact ⟨hreads.ne_empty, hreads.position, hreads.first, hreads.unread, hreads.length,
      hreads.isComplete_iff⟩

/-- A flat word, and then a separator and a peak without a level. -/
def flatThenPeak : Recogniser :=
  .sequence [.token ⟨⟨"[F]", .one (.single 'F')⟩, .pattern "[F]"⟩,
    .repeated 2 (.choice [.token ⟨⟨"[P]", .one (.single 'P')⟩, .pattern "[P]"⟩,
      .token ⟨⟨"[\\s]", .one (.property .blank)⟩, .pattern "[\\s]"⟩])]

theorem flatThenPeak_appends_advances :
    ∃ out, flatThenPeak.parse (History.ofSentence ⟨"F P"⟩) = .ok out ∧
      (History.ofSentence ⟨"F P"⟩).toList <+: out.toList ∧
      out.isComplete = true ∧ out.length = out.consumed.length + 1 := by
  have hrun : flatThenPeak.parse (History.ofSentence ⟨"F P"⟩) = .ok (History.ofStates
      [⟨["F", " ", "P"], none, 0⟩, ⟨[" ", "P"], some "F", 1⟩, ⟨["P"], some " ", 2⟩,
        ⟨[], some "P", 3⟩]) := rfl
  have hreached := History.Reached.parse flatThenPeak .start hrun
  have hgrown := parse_appends_advances.1 flatThenPeak _ _ hrun
  have haccount := parse_appends_advances.2 _ _ hreached
  refine ⟨_, hrun, hgrown.1, ?_, haccount.2.2.2.2.1⟩
  exact haccount.2.2.2.2.2.2 rfl

end Swell

import Swell.Proofs.Pipeline.Contract

/-!
# What the pipeline of settings computes

Main statement: a run of the stages that settings stand for, in any monad, hands the result of each
stage on to the next, so that no contract between two of them is broken.
-/
namespace Swell

variable {m : Type → Type} [Monad m] [LawfulMonad m]

namespace Stage

variable {α β γ : Type} [Tagged α] [Tagged β] [Tagged γ]

theorem call_unary (name : String) (f : α → Except Fault β) (a : α) :
    (unary name fun a => pure (f a) : Stage m).call [Slot.present a] =
      pure ((f a).map Tagged.toValue) := by
  have hfills : Fills [Tagged.tag α] [Slot.present a] [Tagged.toValue a] :=
    ⟨rfl, by simp [Tagged.tag?_toValue]⟩
  have hrun := run_unary name (fun a => (pure (f a) : m (Except Fault β)))
    (Tagged.ofValue?_toValue a)
  rw [call_of_typed _ hfills rfl hrun, map_pure]

theorem call_binary (name : String) (f : α → β → Except Fault γ) (a : α) (b : β) :
    (binary name fun a b => pure (f a b) : Stage m).call [Slot.present a, Slot.present b] =
      pure ((f a b).map Tagged.toValue) := by
  have hfills : Fills [Tagged.tag α, Tagged.tag β] [Slot.present a, Slot.present b]
      [Tagged.toValue a, Tagged.toValue b] :=
    ⟨rfl, by simp [Tagged.tag?_toValue]⟩
  have hrun := run_binary name (fun a b => (pure (f a b) : m (Except Fault γ)))
    (Tagged.ofValue?_toValue a) (Tagged.ofValue?_toValue b)
  rw [call_of_typed _ hfills rfl hrun, map_pure]

end Stage

namespace Settings

def outcome (s : Settings) (vessel : Vessel) (wave : Series Float) : Except Fault Reading := do
  let limits ← vessel.limits.mapError BadDimension.toFault
  let grammar ←
    (Grammar.generate s.collection s.rules limits).mapError UnreadablePattern.toFault
  let signal ← (s.sampling.signal wave).mapError SignalFault.toFault
  let sentence ← .ok signal.sentence
  (grammar.run sentence).mapError Fault.parse

/-- What has to succeed for a vessel and a wave to have a reading. -/
theorem outcome_eq_ok_iff {s : Settings} {vessel : Vessel} {wave : Series Float}
    {reading : Reading} :
    s.outcome vessel wave = .ok reading ↔ ∃ limits grammar signal, vessel.limits = .ok limits ∧
      Grammar.generate s.collection s.rules limits = .ok grammar ∧
      s.sampling.signal wave = .ok signal ∧ grammar.run signal.sentence = .ok reading := by
  simp [outcome, bind_eq_ok_iff]

end Settings

namespace Stages

variable {α β : Type} [Tagged α]

/-- A stage that gives a value is followed by the next one, and one that fails by none. -/
theorem run_bind_of_call {next : Value → ExceptT Fault m β} {g : α → Except Fault β}
    (hnext : ∀ a, (next (Tagged.toValue a)).run = pure (g a)) (result : Except Fault α) :
    (ExceptT.mk (pure (result.map Tagged.toValue)) >>= next).run = pure (result >>= g) := by
  cases result with
  | ok a =>
    change pure (Except.ok (Tagged.toValue a)) >>= ExceptT.bindCont next = _
    rw [pure_bind]
    exact hnext a
  | error fault =>
    change pure (Except.error fault) >>= ExceptT.bindCont next = _
    rw [pure_bind]
    rfl

theorem extract_toValue (a : α) : Value.extract α (Tagged.toValue a) = .ok a := by
  have hvalid : Slot.validate (some (.ok (Tagged.toValue a))) (Tagged.tag α) =
      .ok (Tagged.toValue a) := Stage.validate_map_toValue (.ok a)
  simp only [Value.extract, hvalid, bind, Except.bind, Tagged.ofValue?_toValue]

/-- The stages of settings hand on what they compute, and nothing else happens. -/
theorem runInputs_ofSettings (s : Settings) (vessel : Vessel) (wave : Series Float) :
    ((ofSettings s : Stages m).runInputs vessel wave).run = pure (s.outcome vessel wave) := by
  have hlimits : (ofSettings s : Stages m).limits.call [Slot.present vessel] =
      pure ((vessel.limits.mapError BadDimension.toFault).map Tagged.toValue) :=
    Stage.call_unary _ _ vessel
  have hgrammar : ∀ l : Limits,
      (ofSettings s : Stages m).grammar.call [some (.ok (Tagged.toValue l))] =
        pure (((Grammar.generate s.collection s.rules l).mapError
          UnreadablePattern.toFault).map Tagged.toValue) :=
    fun l => Stage.call_unary _ _ l
  have hsignal : (ofSettings s : Stages m).signal.call [Slot.present wave] =
      pure (((s.sampling.signal wave).mapError SignalFault.toFault).map Tagged.toValue) :=
    Stage.call_unary _ _ wave
  have hsentence : ∀ c : CoarseSignal,
      (ofSettings s : Stages m).sentence.call [some (.ok (Tagged.toValue c))] =
        pure ((Except.ok c.sentence).map Tagged.toValue) :=
    fun c => Stage.call_unary _ (fun c : CoarseSignal => .ok c.sentence) c
  have hreading : ∀ (g : Grammar) (t : Sentence),
      (reading : Stage m).call [some (.ok (Tagged.toValue g)), some (.ok (Tagged.toValue t))] =
        pure (((g.run t).mapError Fault.parse).map Tagged.toValue) :=
    Stage.call_binary _ fun (g : Grammar) (t : Sentence) => (g.run t).mapError Fault.parse
  rw [runInputs, run, hlimits]
  refine run_bind_of_call (fun l => ?_) _
  rw [hgrammar]
  refine run_bind_of_call (fun g => ?_) _
  rw [hsignal]
  refine run_bind_of_call (fun c => ?_) _
  rw [hsentence]
  refine run_bind_of_call (fun t => ?_) _
  rw [hreading]
  have hextract : ∀ r : Reading,
      (ExceptT.mk (pure (Value.extract Reading (Tagged.toValue r))) : ExceptT Fault m Reading).run =
        pure (.ok r) := by
    intro r
    rw [extract_toValue]
    rfl
  rw [run_bind_of_call hextract]
  cases (g.run t).mapError Fault.parse <;> rfl

theorem run_ofSettings (s : Settings) (vessel : Vessel) (wave : Series Float) :
    Id.run ((ofSettings s : Stages Id).runInputs vessel wave).run = s.outcome vessel wave := by
  rw [runInputs_ofSettings]
  rfl

end Stages
end Swell

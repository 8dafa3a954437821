import Swell.Proofs.Pipeline.Account
import Swell.Proofs.Pipeline.Outcome

/-!
# The order of the stages

Main statement: whatever the stages of a pipeline do, their collaborators run in the order of their
places, each at most once and only on values with the tags that its stage declares; the first fault
that a stage returns ends the run, as it is; and without one the run gives the reading of the
sentence by the grammar.
-/
namespace Swell

namespace Value

theorem exists_grammar_of_tag? {v : Value} (h : v.tag? = some .parser) : ∃ g, v = .parser g := by
  cases v <;> simp [tag?] at h ⊢

theorem exists_sentence_of_tag? {v : Value} (h : v.tag? = some .sentence) :
    ∃ t, v = .sentence t := by
  cases v <;> simp [tag?] at h ⊢

end Value

variable {σ : Type}

namespace Stages

variable {s : Stages (StateM σ)} {vessel wave : Slot} {start world : σ}
  {called : List Place} {returned : Place → Slot} {log : ExecutionLog} {p : Place}

namespace Account

variable (h : s.Account vessel wave start called returned world log)
include h

theorem refused (hp : p ∈ called) {fault : Fault}
    (hargs : s.argumentsAt vessel wave returned p = .error fault) :
    returned p = some (.error fault) := by
  obtain ⟨result, before, after, further, hcalls, hresult⟩ := h.result p hp
  rw [hresult]
  cases hcalls with
  | refused hrefused =>
    rw [argumentsAt, hrefused] at hargs
    cases hargs
    rfl
  | ran haccepted hrun =>
    rw [argumentsAt, haccepted] at hargs
    cases hargs

theorem accepted {value : Value} (hp : returned p = some (.ok value)) :
    (s.argumentsAt vessel wave returned p).isOk = true := by
  have hcalled : p ∈ called := by
    rw [h.called_iff, hp]
    rfl
  cases hargs : s.argumentsAt vessel wave returned p with
  | ok values => rfl
  | error fault =>
    rw [h.refused hcalled hargs] at hp
    cases hp

/-- Stages that return values have accepted their slots. -/
theorem filter_accepted {ps : List Place}
    (hps : ∀ p ∈ ps, ∃ value, returned p = some (.ok value)) :
    ps.filter (fun p => (s.argumentsAt vessel wave returned p).isOk) = ps := by
  apply List.filter_eq_self.2
  intro p hp
  obtain ⟨value, hvalue⟩ := hps p hp
  exact h.accepted hvalue

theorem returned_reading (hp : .reading ∈ called) {g : Grammar} {t : Sentence}
    (hg : returned .grammar = some (.ok (.parser g)))
    (ht : returned .sentence = some (.ok (.sentence t))) :
    returned .reading = some (((g.run t).mapError Fault.parse).map Value.parsed) := by
  obtain ⟨result, before, after, further, hcalls, hresult⟩ := h.result .reading hp
  have hcall : (Stages.reading : Stage (StateM σ)).call
      [some (.ok (.parser g)), some (.ok (.sentence t))] =
        pure (((g.run t).mapError Fault.parse).map Value.parsed) :=
    Stage.call_binary "Parse" (fun (g : Grammar) (t : Sentence) => (g.run t).mapError Fault.parse)
      g t
  have hslots : Place.reading.slots vessel wave returned =
      [some (.ok (.parser g)), some (.ok (.sentence t))] := by
    rw [Place.slots, hg, ht]
  have hrun := hcalls.call_eq
  rw [hslots, stageAt, hcall] at hrun
  obtain ⟨rfl, rfl⟩ := Prod.mk.inj hrun
  exact hresult

theorem exists_read (hp : ∃ value, returned .reading = some (.ok value)) :
    ∃ g t reading, returned .grammar = some (.ok (.parser g)) ∧
      returned .sentence = some (.ok (.sentence t)) ∧ g.run t = .ok reading ∧
      returned .reading = some (.ok (.parsed reading)) := by
  obtain ⟨value, hvalue⟩ := hp
  have hcalled : .reading ∈ called := by
    rw [h.called_iff, hvalue]
    rfl
  obtain ⟨values, hvalues⟩ := isOk_iff.1 (h.accepted hvalue)
  have hfills : Stage.Fills [.parser, .sentence] (Place.reading.slots vessel wave returned)
      values := (Stage.arguments_eq_ok_iff_fills _ _ _).1 hvalues
  obtain ⟨v, w, rfl, hv, hw⟩ := Stage.fills_pair hfills
  obtain ⟨g, rfl⟩ := Value.exists_grammar_of_tag? hv
  obtain ⟨t, rfl⟩ := Value.exists_sentence_of_tag? hw
  have hslots := hfills.slots_eq
  simp only [Place.slots, List.length_cons, List.length_nil, List.take_succ_cons,
    List.take_zero, List.map_cons, List.map_nil, List.cons.injEq, and_true] at hslots
  have hreturned := h.returned_reading hcalled hslots.1 hslots.2
  rw [hvalue] at hreturned
  cases hrun : g.run t with
  | error fault =>
    rw [hrun] at hreturned
    cases hreturned
  | ok reading =>
    rw [hrun] at hreturned
    cases hreturned
    exact ⟨g, t, reading, hslots.1, hslots.2, hrun, hvalue⟩

end Account

theorem lastReading_eq {reading : Reading}
    (h : returned .reading = some (.ok (.parsed reading))) :
    lastReading returned = .ok reading := by
  rw [lastReading, h]
  exact extract_toValue reading

theorem not_value_of_fault {fault : Fault} (hp : returned p = some (.error fault)) :
    ¬∃ value, returned p = some (.ok value) := by
  simp [hp]

namespace Ends

variable {result : Except Fault (Place → Slot)}
  (h : s.Ends vessel wave start result returned world log)
include h

theorem exists_account : ∃ called, s.Account vessel wave start called returned world log := by
  cases h with
  | completed h hvalues => exact ⟨_, h⟩
  | stopped h hvalues hfault => exact ⟨_, h⟩

theorem isSome_returned_iff (p : Place) :
    (returned p).isSome = true ↔ ∀ q ∈ p.earlier, ∃ value, returned q = some (.ok value) := by
  cases h with
  | completed h hvalues =>
    obtain ⟨value, hvalue⟩ := hvalues p
    simp [hvalue, hvalues]
  | @stopped _ _ _ stop fault h hvalues hfault =>
    rw [← h.called_iff, List.mem_append, List.mem_singleton]
    constructor
    · rintro (hp | rfl)
      · intro q hq
        exact hvalues q (Place.mem_earlier_trans hq hp)
      · exact hvalues
    · intro hp
      rcases Place.earlier_cases p stop with heq | hbefore | hbehind
      · exact .inr heq
      · exact .inl hbefore
      · exact absurd (hp stop hbehind) (not_value_of_fault hfault)

theorem in_order : log.map Execution.place <+: Place.all := by
  cases h with
  | completed h hvalues =>
    have hplaces : log.map Execution.place = Place.all :=
      h.places.trans (h.filter_accepted fun p _ => hvalues p)
    simp [hplaces]
  | @stopped _ _ _ stop fault h hvalues hfault =>
    have hlast :
        [stop].filter (fun p => (s.argumentsAt vessel wave returned p).isOk) <+: [stop] := by
      rw [List.filter_cons]
      split <;> simp
    rw [h.places, List.filter_append, h.filter_accepted hvalues]
    exact ((List.prefix_append_right_inj _).2 hlast).trans stop.earlier_append

theorem mem_places_iff (p : Place) :
    p ∈ log.map Execution.place ↔ (∀ q ∈ p.earlier, ∃ value, returned q = some (.ok value)) ∧
      ∃ values, s.argumentsAt vessel wave returned p = .ok values := by
  obtain ⟨called, haccount⟩ := h.exists_account
  rw [haccount.places, List.mem_filter, haccount.called_iff, h.isSome_returned_iff, isOk_iff]

/-- At most one stage returns a fault. -/
theorem eq_error_iff (fault : Fault) :
    result = .error fault ↔ ∃ p, returned p = some (.error fault) := by
  have hsome := h.isSome_returned_iff
  cases h with
  | completed h hvalues =>
    constructor
    · intro hresult
      cases hresult
    · rintro ⟨p, hp⟩
      exact absurd (hvalues p) (not_value_of_fault hp)
  | @stopped _ _ _ stop found h hvalues hfault =>
    constructor
    · intro hresult
      cases hresult
      exact ⟨stop, hfault⟩
    · rintro ⟨p, hp⟩
      rcases Place.earlier_cases p stop with rfl | hbefore | hbehind
      · rw [hfault] at hp
        cases hp
        rfl
      · exact absurd (hvalues p hbefore) (not_value_of_fault hp)
      · have hcalled : (returned p).isSome = true := by simp [hp]
        exact absurd ((hsome p).1 hcalled stop hbehind) (not_value_of_fault hfault)

theorem eq_ok_of_values (hvalues : ∀ p, ∃ value, returned p = some (.ok value)) :
    result = .ok returned := by
  cases h with
  | completed h hvalues => rfl
  | @stopped _ _ _ stop fault h hearlier hfault =>
    exact absurd (hvalues stop) (not_value_of_fault hfault)

/-- The reading is taken out of what the last stage returns without a further fault. -/
theorem outcome_eq_error_iff (fault : Fault) :
    (result >>= lastReading) = .error fault ↔ ∃ p, returned p = some (.error fault) := by
  rw [← h.eq_error_iff]
  cases h with
  | completed h hvalues =>
    -- validation has let through nothing but a reading
    obtain ⟨g, t, reading, -, -, -, hreading⟩ := h.exists_read (hvalues .reading)
    change lastReading returned = .error fault ↔ _
    rw [lastReading_eq hreading]
    simp
  | @stopped _ _ _ stop found h hvalues hfault =>
    change Except.error found = .error fault ↔ Except.error found = .error fault
    simp

theorem outcome_eq_run {g : Grammar} {t : Sentence}
    (hg : returned .grammar = some (.ok (.parser g)))
    (ht : returned .sentence = some (.ok (.sentence t))) :
    (result >>= lastReading) = (g.run t).mapError Fault.parse := by
  obtain ⟨called, haccount⟩ := h.exists_account
  have hbefore := (h.isSome_returned_iff .sentence).1 (by rw [ht]; rfl)
  have hcalled : (returned .reading).isSome = true := by
    rw [h.isSome_returned_iff]
    intro q hq
    rcases Place.eq_sentence_or_earlier hq with rfl | hq
    · exact ⟨_, ht⟩
    · exact hbefore q hq
  have hreading := haccount.returned_reading ((haccount.called_iff _).2 hcalled) hg ht
  cases hrun : g.run t with
  | error fault =>
    rw [hrun] at hreading
    exact (h.outcome_eq_error_iff (.parse fault)).2 ⟨.reading, hreading⟩
  | ok reading =>
    rw [hrun] at hreading
    have hvalues : ∀ p, ∃ value, returned p = some (.ok value) := by
      intro p
      rcases p.eq_reading_or_earlier with rfl | hp
      · exact ⟨_, hreading⟩
      · exact (h.isSome_returned_iff .reading).1 hcalled p hp
    rw [h.eq_ok_of_values hvalues]
    exact lastReading_eq hreading

end Ends

/-- How a run goes, in what its stages have returned, the collaborators that ran, and its outcome.
-/
structure RunsInOrder (s : Stages (StateM σ)) (vessel wave : Slot) (returned : Place → Slot)
    (log : ExecutionLog) (outcome : Except Fault Reading) : Prop where
  /-- The collaborators that ran are the first ones in the order of places, each once. -/
  in_order : log.map Execution.place <+: Place.all
  /-- A stage is called exactly if all before it return values. -/
  called_iff : ∀ p, (returned p).isSome = true ↔
    ∀ q ∈ p.earlier, ∃ value, returned q = some (.ok value)
  /-- A collaborator runs exactly if its stage is called and its slots pass validation. -/
  ran_iff : ∀ p, p ∈ log.map Execution.place ↔
    (∀ q ∈ p.earlier, ∃ value, returned q = some (.ok value)) ∧
      ∃ values, Stage.arguments (s.stageAt p).inputs (p.slots vessel wave returned) = .ok values
  /-- It runs on the values in its slots, which have the tags that the stage declares. -/
  declared : ∀ e ∈ log,
    (e.place.slots vessel wave returned).take (s.stageAt e.place).inputs.length =
      e.values.map (fun v => some (.ok v)) ∧
    e.values.map Value.tag? = (s.stageAt e.place).inputs.map some
  /-- What it gives is validated. -/
  validated : ∀ e ∈ log,
    returned e.place = some (e.given.validate (s.stageAt e.place).output)
  /-- A called stage whose slots do not pass validation returns the fault of its first bad slot. -/
  refused : ∀ p fault, (returned p).isSome = true →
    Stage.arguments (s.stageAt p).inputs (p.slots vessel wave returned) = .error fault →
      returned p = some (.error fault)
  /-- A fault that comes from further up is the outcome. -/
  passed_on : ∀ p fault, (returned p).isSome = true → (s.stageAt p).inputs ≠ [] →
    (p.slots vessel wave returned).head? = some (some (.error fault)) → outcome = .error fault
  /-- The outcome is the fault of the stage that returns one. -/
  fails_iff : ∀ fault, outcome = .error fault ↔ ∃ p, returned p = some (.error fault)
  /-- A grammar and a sentence that are returned are what is read. -/
  reads : ∀ g t, returned .grammar = some (.ok (.parser g)) →
    returned .sentence = some (.ok (.sentence t)) → outcome = (g.run t).mapError Fault.parse
  /-- If all stages return values, the outcome is a reading. -/
  succeeds : (∀ p, ∃ value, returned p = some (.ok value)) → ∃ g t reading,
    returned .grammar = some (.ok (.parser g)) ∧ returned .sentence = some (.ok (.sentence t)) ∧
      g.run t = .ok reading ∧ outcome = .ok reading

theorem Ends.runsInOrder {result : Except Fault (Place → Slot)}
    (h : s.Ends vessel wave start result returned world log) :
    s.RunsInOrder vessel wave returned log (result >>= lastReading) := by
  obtain ⟨called, haccount⟩ := h.exists_account
  have hrefused : ∀ p fault, (returned p).isSome = true →
      Stage.arguments (s.stageAt p).inputs (p.slots vessel wave returned) = .error fault →
        returned p = some (.error fault) :=
    fun p fault hp => haccount.refused ((haccount.called_iff p).2 hp)
  constructor
  case in_order => exact h.in_order
  case called_iff => exact h.isSome_returned_iff
  case ran_iff => exact h.mem_places_iff
  case declared =>
    intro e he
    exact (Stage.arguments_eq_ok_iff _ _ _).1 (haccount.ran e he).1
  case validated =>
    intro e he
    exact (haccount.ran e he).2
  case refused => exact hrefused
  case passed_on =>
    intro p fault hp hinputs hslot
    rw [h.outcome_eq_error_iff]
    exact ⟨p, hrefused p fault hp (Stage.arguments_of_fault hinputs hslot)⟩
  case fails_iff => exact h.outcome_eq_error_iff
  case reads => exact fun g t => h.outcome_eq_run
  case succeeds =>
    intro hvalues
    obtain ⟨g, t, reading, hg, ht, hrun, -⟩ := haccount.exists_read (hvalues .reading)
    refine ⟨g, t, reading, hg, ht, hrun, ?_⟩
    rw [h.outcome_eq_run hg ht, hrun]
    rfl

/-- Whatever stages a pipeline has and whatever slots it starts from, noting the runs of its
collaborators changes nothing about its outcome or about the world. The noted runs, repeated, lead
to the same world, and they stand in the order of places up to the first stage that fails. -/
theorem pipeline_runs_in_order (s : Stages (StateM σ)) (vessel wave : Slot) (world : σ) :
    ∃ outcome final log returned,
      (s.run vessel wave).run.run world = (outcome, final) ∧
      (readInTurn (fun p => (s.stageAt p).noted p) vessel wave).run.run (world, []) =
        (outcome, final, log) ∧
      s.Replays log world final ∧
      s.RunsInOrder vessel wave returned log outcome := by
  have hall : Place.all = [] ++ Place.all := rfl
  obtain ⟨result, returned, final, log, hends, hplain, hnoted⟩ :=
    exists_ends hall (account_start world) (by simp)
  obtain ⟨called, haccount⟩ := hends.exists_account
  refine ⟨result >>= lastReading, final, log, returned, ?_, run_readInTurn _ _ _ hnoted,
    haccount.replays, hends.runsInOrder⟩
  rw [run_eq_readInTurn]
  exact run_readInTurn _ _ _ hplain

end Stages
end Swell

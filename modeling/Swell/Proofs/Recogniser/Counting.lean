import Mathlib.Data.List.Induction
import Swell.Proofs.Recogniser.Questions

/-!
# What meters count

Main statements: the items of a sequence are asked in turn, each on the history that the one before
it returned, and the items of a choice one after the other on the history of the choice, until one
is not passed over; so what a meter counts, wherever and however often it stands, follows from the
results of the parts alone.
-/
namespace Swell
namespace Recogniser

variable {meter : Nat} {r unit : Recogniser} {items before behind : List Recogniser}
  {h next : History}

theorem allMeters_append (rs ts : List Recogniser) :
    allMeters (rs ++ ts) = allMeters rs ++ allMeters ts := by
  induction rs with
  | nil => rfl
  | cons r rs ih => rw [List.cons_append, allMeters, allMeters, ih, List.append_assoc]

theorem not_mem_allMeters_append_cons_iff :
    meter ∉ allMeters (before ++ r :: behind) ↔
      meter ∉ allMeters before ∧ meter ∉ r.meters ∧ meter ∉ allMeters behind := by
  simp only [allMeters_append, allMeters, List.mem_append, not_or]

theorem asked_metered_self (hr : meter ∉ r.meters) (h : History) :
    asked meter (metered meter r) h = [h] := by
  rw [asked_metered, if_pos rfl, asked_of_not_mem hr, List.append_nil]

theorem asked_sequence_of_not_mem (hitems : meter ∉ allMeters items) (h : History) :
    asked meter (sequence items) h = [] :=
  asked_of_not_mem (by rwa [meters]) h

theorem asked_choice_of_not_mem (hitems : meter ∉ allMeters items) (h : History) :
    asked meter (choice items) h = [] :=
  asked_of_not_mem (by rwa [meters]) h

theorem asked_sequence_cons_of_not_mem (hbehind : meter ∉ allMeters behind) (r : Recogniser)
    (h : History) : asked meter (sequence (r :: behind)) h = asked meter r h := by
  change asked meter (sequence ([r] ++ behind)) h = _
  by_cases hin : ∃ next, InTurn [r] h next
  · obtain ⟨next, hin⟩ := hin
    rw [asked_sequence_append hin, asked_sequence_of_not_mem hbehind, asked_sequence_singleton,
      List.append_nil]
  · rw [asked_sequence_append_of_not hin, asked_sequence_singleton]

theorem asked_choice_cons_of_not_mem (hbehind : meter ∉ allMeters behind) (r : Recogniser)
    (h : History) : asked meter (choice (r :: behind)) h = asked meter r h := by
  change asked meter (choice ([r] ++ behind)) h = _
  by_cases hpassed : ∀ p ∈ [r], p.PassedOver h
  · rw [asked_choice_append hpassed, asked_choice_of_not_mem hbehind, asked_choice_singleton,
      List.append_nil]
  · rw [asked_choice_append_of_not hpassed, asked_choice_singleton]

/-- An item of a sequence is asked once, on the history that the items before it lead to. -/
theorem asked_item_of_sequence (hm : meter ∉ allMeters (before ++ r :: behind))
    (hin : InTurn before h next) :
    asked meter (sequence (before ++ metered meter r :: behind)) h = [next] := by
  obtain ⟨hbefore, hr, hbehind⟩ := not_mem_allMeters_append_cons_iff.1 hm
  rw [asked_sequence_append hin, asked_sequence_of_not_mem hbefore,
    asked_sequence_cons_of_not_mem hbehind, asked_metered_self hr, List.nil_append]

theorem asked_item_of_sequence_of_not (hm : meter ∉ allMeters (before ++ r :: behind))
    (hnot : ¬∃ next, InTurn before h next) :
    asked meter (sequence (before ++ metered meter r :: behind)) h = [] := by
  obtain ⟨hbefore, -, -⟩ := not_mem_allMeters_append_cons_iff.1 hm
  rw [asked_sequence_append_of_not hnot, asked_sequence_of_not_mem hbefore]

/-- An item of a choice is asked once, on the history of the choice. -/
theorem asked_item_of_choice (hm : meter ∉ allMeters (before ++ r :: behind))
    (hpassed : ∀ p ∈ before, p.PassedOver h) :
    asked meter (choice (before ++ metered meter r :: behind)) h = [h] := by
  obtain ⟨hbefore, hr, hbehind⟩ := not_mem_allMeters_append_cons_iff.1 hm
  rw [asked_choice_append hpassed, asked_choice_of_not_mem hbefore,
    asked_choice_cons_of_not_mem hbehind, asked_metered_self hr, List.nil_append]

theorem asked_item_of_choice_of_not (hm : meter ∉ allMeters (before ++ r :: behind))
    (hnot : ¬∀ p ∈ before, p.PassedOver h) :
    asked meter (choice (before ++ metered meter r :: behind)) h = [] := by
  obtain ⟨hbefore, -, -⟩ := not_mem_allMeters_append_cons_iff.1 hm
  rw [asked_choice_append_of_not hnot, asked_choice_of_not_mem hbefore]

/-- The unit of a repetition is asked on the history that its earlier runs lead to. -/
theorem asked_unit_of_repeated (hm : meter ∉ unit.meters) (n i : Nat) (h out : History) :
    (asked meter (repeated n (metered meter unit)) h)[i]? = some out ↔
      i < n ∧ InTurn (List.replicate i unit) h out := by
  rw [asked_repeated]
  induction n generalizing i h with
  | zero => simp [asked_sequence_nil]
  | succ n ih =>
    have hfirst : asked meter (sequence [metered meter unit]) h = [h] := by
      rw [asked_sequence_singleton, asked_metered_self hm]
    change (asked meter (sequence ([metered meter unit] ++
      List.replicate n (metered meter unit))) h)[i]? = some out ↔ _
    cases hunit : unit.parse h with
    | ok next =>
      have hin : InTurn [metered meter unit] h next :=
        .cons (by rw [parse_metered, hunit]) (.nil next)
      rw [asked_sequence_append hin, hfirst]
      cases i with
      | zero => simp [inTurn_nil_iff]
      | succ i =>
        rw [List.singleton_append, List.getElem?_cons_succ, ih, List.replicate_succ,
          inTurn_cons_iff]
        simp [hunit]
    | error fault =>
      have hnot : ¬∃ next, InTurn [metered meter unit] h next := by
        simp [inTurn_cons_iff, hunit]
      rw [asked_sequence_append_of_not hnot, hfirst]
      cases i with
      | zero => simp [inTurn_nil_iff]
      | succ i =>
        rw [List.replicate_succ, inTurn_cons_iff]
        simp [hunit]

/-- What a meter counts on a history, read off the results of the parts alone. One more item at the
end of a sequence is asked if the items before it read on, where these have led to; one more item
at the end of a choice is asked if all items before it are passed over, on the history of the
choice. -/
structure CountsByRule (meter : Nat) (c : Recogniser → History → Nat) : Prop where
  token (t : Token) (h : History) : c (.token t) h = 0
  metered (k : Nat) (r : Recogniser) (h : History) :
    c (.metered k r) h = (if k = meter then 1 else 0) + c r h
  sequence_nil (h : History) : c (.sequence []) h = 0
  sequence_asked {items : List Recogniser} {h next : History} (r : Recogniser) :
    InTurn items h next → c (.sequence (items ++ [r])) h = c (.sequence items) h + c r next
  sequence_not_asked {items : List Recogniser} {h : History} (r : Recogniser) :
    (¬∃ next, InTurn items h next) → c (.sequence (items ++ [r])) h = c (.sequence items) h
  choice_nil (h : History) : c (.choice []) h = 0
  choice_asked {items : List Recogniser} {h : History} (r : Recogniser) :
    (∀ p ∈ items, p.PassedOver h) → c (.choice (items ++ [r])) h = c (.choice items) h + c r h
  choice_not_asked {items : List Recogniser} {h : History} (r : Recogniser) :
    (¬∀ p ∈ items, p.PassedOver h) → c (.choice (items ++ [r])) h = c (.choice items) h
  repeated_zero (unit : Recogniser) (h : History) : c (.repeated 0 unit) h = 0
  repeated_asked {n : Nat} {unit : Recogniser} {h next : History} :
    InTurn (List.replicate n unit) h next →
      c (.repeated (n + 1) unit) h = c (.repeated n unit) h + c unit next
  repeated_not_asked {n : Nat} {unit : Recogniser} {h : History} :
    (¬∃ next, InTurn (List.replicate n unit) h next) →
      c (.repeated (n + 1) unit) h = c (.repeated n unit) h

theorem countsByRule_asked (meter : Nat) :
    CountsByRule meter fun r h => (asked meter r h).length where
  token t h := by rw [asked_token, List.length_nil]
  metered k r h := by
    rw [asked_metered, List.length_append]
    split <;> rfl
  sequence_nil h := by rw [asked_sequence_nil, List.length_nil]
  sequence_asked r hin := by
    rw [asked_sequence_append hin, List.length_append, asked_sequence_singleton]
  sequence_not_asked r hnot := by rw [asked_sequence_append_of_not hnot]
  choice_nil h := by rw [asked_choice_nil, List.length_nil]
  choice_asked r hpassed := by
    rw [asked_choice_append hpassed, List.length_append, asked_choice_singleton]
  choice_not_asked r hnot := by rw [asked_choice_append_of_not hnot]
  repeated_zero unit h := by
    rw [asked_repeated, List.replicate_zero, asked_sequence_nil, List.length_nil]
  repeated_asked hin := by
    rw [asked_repeated, asked_repeated, List.replicate_succ', asked_sequence_append hin,
      List.length_append, asked_sequence_singleton]
  repeated_not_asked hnot := by
    rw [asked_repeated, asked_repeated, List.replicate_succ', asked_sequence_append_of_not hnot]

/-! The rule leaves no choice: it goes down from lists to their items and to shorter lists. -/

namespace CountsByRule

variable {c d : Recogniser → History → Nat} (hc : CountsByRule meter c) (hd : CountsByRule meter d)
include hc hd

theorem sequence_congr (hitems : ∀ p ∈ items, ∀ h, c p h = d p h) (h : History) :
    c (.sequence items) h = d (.sequence items) h := by
  induction items using List.reverseRecOn with
  | nil => rw [hc.sequence_nil, hd.sequence_nil]
  | append_singleton items r ih =>
    have hrest := ih fun p hp => hitems p (List.mem_append_left _ hp)
    by_cases hin : ∃ next, InTurn items h next
    · obtain ⟨next, hin⟩ := hin
      rw [hc.sequence_asked r hin, hd.sequence_asked r hin, hrest, hitems r (by simp)]
    · rw [hc.sequence_not_asked r hin, hd.sequence_not_asked r hin, hrest]

theorem choice_congr (hitems : ∀ p ∈ items, ∀ h, c p h = d p h) (h : History) :
    c (.choice items) h = d (.choice items) h := by
  induction items using List.reverseRecOn with
  | nil => rw [hc.choice_nil, hd.choice_nil]
  | append_singleton items r ih =>
    have hrest := ih fun p hp => hitems p (List.mem_append_left _ hp)
    by_cases hpassed : ∀ p ∈ items, p.PassedOver h
    · rw [hc.choice_asked r hpassed, hd.choice_asked r hpassed, hrest, hitems r (by simp)]
    · rw [hc.choice_not_asked r hpassed, hd.choice_not_asked r hpassed, hrest]

theorem repeated_congr (hunit : ∀ h, c unit h = d unit h) (n : Nat) (h : History) :
    c (.repeated n unit) h = d (.repeated n unit) h := by
  induction n with
  | zero => rw [hc.repeated_zero, hd.repeated_zero]
  | succ n ih =>
    by_cases hin : ∃ next, InTurn (List.replicate n unit) h next
    · obtain ⟨next, hin⟩ := hin
      rw [hc.repeated_asked hin, hd.repeated_asked hin, ih, hunit]
    · rw [hc.repeated_not_asked hin, hd.repeated_not_asked hin, ih]

end CountsByRule

mutual

theorem CountsByRule.unique {c d : Recogniser → History → Nat} (hc : CountsByRule meter c)
    (hd : CountsByRule meter d) (r : Recogniser) (h : History) : c r h = d r h := by
  match r with
  | .token t => rw [hc.token, hd.token]
  | .sequence items => exact hc.sequence_congr hd (hc.unique_all hd items) h
  | .choice items => exact hc.choice_congr hd (hc.unique_all hd items) h
  | .repeated n unit => exact hc.repeated_congr hd (fun h => hc.unique hd unit h) n h
  | .metered k inner => rw [hc.metered, hd.metered, hc.unique hd inner h]

theorem CountsByRule.unique_all {c d : Recogniser → History → Nat} (hc : CountsByRule meter c)
    (hd : CountsByRule meter d) (rs : List Recogniser) : ∀ p ∈ rs, ∀ h, c p h = d p h := by
  match rs with
  | [] => simp
  | r :: rs => exact List.forall_mem_cons.2 ⟨fun h => hc.unique hd r h, hc.unique_all hd rs⟩

end

/-- The rule counts what meters count, and nothing else does. -/
theorem countsByRule_iff (meter : Nat) (c : Recogniser → History → Nat) :
    CountsByRule meter c ↔ ∀ (r : Recogniser) (h : History) (log : MeterLog),
      (r.parseLogged h log).2.count meter = log.count meter + c r h := by
  constructor
  · intro hc r h log
    rw [count_parseLogged_eq, hc.unique (countsByRule_asked meter) r h]
  · intro hcount
    have hasked : c = fun r h => (asked meter r h).length := by
      funext r h
      have hlog := hcount r h []
      rw [count_parseLogged_eq] at hlog
      omega
    rw [hasked]
    exact countsByRule_asked meter

end Recogniser

open Recogniser in
/-- Meters change neither results nor descriptors, and log the questions that pass them in order. An
item of a sequence is asked exactly once if the items before it read on, on the history that these
lead to, and an item of a choice if all items before it are passed over, on the history of the
choice; otherwise they are not asked. The runs of a repetition follow one another as the items of a
sequence do. So meters count by a rule about the results of parts, also a meter that stands in many
places, and one that a sequence and a choice of the same items pass one after the other. -/
theorem recognisers_ask_in_turn (meter : Nat) (r : Recogniser) (before behind : List Recogniser)
    (h : History) (log : MeterLog) :
    (r.parseLogged h log =
        (r.unmetered.parse h, ((r.questions h).map Question.meter).reverse ++ log) ∧
      r.parse h = r.unmetered.parse h ∧ r.descriptor = r.unmetered.descriptor) ∧
    (meter ∉ allMeters (before ++ r :: behind) →
      (∀ next, InTurn before h next →
        asked meter (sequence (before ++ metered meter r :: behind)) h = [next]) ∧
      ((¬∃ next, InTurn before h next) →
        asked meter (sequence (before ++ metered meter r :: behind)) h = []) ∧
      ((∀ p ∈ before, p.PassedOver h) →
        asked meter (choice (before ++ metered meter r :: behind)) h = [h]) ∧
      ((¬∀ p ∈ before, p.PassedOver h) →
        asked meter (choice (before ++ metered meter r :: behind)) h = [])) ∧
    (meter ∉ r.meters → ∀ n i out,
      (asked meter (repeated n (metered meter r)) h)[i]? = some out ↔
        i < n ∧ InTurn (List.replicate i r) h out) ∧
    ∀ c, (CountsByRule meter c ↔ ∀ (r : Recogniser) (h : History) (log : MeterLog),
        (r.parseLogged h log).2.count meter = log.count meter + c r h) ∧
      (CountsByRule meter c → ∀ items,
        ((choice items).parseLogged h ((sequence items).parseLogged h log).2).2.count meter =
          log.count meter + c (sequence items) h + c (choice items) h) := by
  refine ⟨⟨?_, (parse_unmetered r h).symm, (descriptor_unmetered r).symm⟩, fun hm => ?_,
    fun hm n i out => asked_unit_of_repeated hm n i h out,
    fun c => ⟨countsByRule_iff meter c, fun hc items => ?_⟩⟩
  · rw [parse_unmetered, parseLogged_eq, logBehind]
  · exact ⟨fun next => asked_item_of_sequence hm, asked_item_of_sequence_of_not hm,
      asked_item_of_choice hm, asked_item_of_choice_of_not hm⟩
  · have hcount := (countsByRule_iff meter c).1 hc
    rw [hcount, hcount]

/-- The flat word behind a longer item of a choice. On a last flat word it is not asked, because the
longer item comes to the end of the atoms; on a trough it is. A meter around two items is passed
twice by a sequence of them, and then once by the choice. -/
theorem flatWord_is_asked_in_turn :
    7 ∉ Recogniser.allMeters ([.sequence [flatWord, blankWord]] ++ [flatWord]) ∧
    Recogniser.asked 7 (.choice ([.sequence [flatWord, blankWord]] ++ [.metered 7 flatWord]))
      (.ofAtoms ["F"]) = [] ∧
    Recogniser.asked 7 (.choice ([.sequence [flatWord, blankWord]] ++ [.metered 7 flatWord]))
      (.ofAtoms ["T"]) = [.ofAtoms ["T"]] ∧
    ((Recogniser.choice [.metered 7 flatWord, .metered 7 blankWord]).parseLogged
      (.ofAtoms ["F", " "])
      ((Recogniser.sequence [.metered 7 flatWord, .metered 7 blankWord]).parseLogged
        (.ofAtoms ["F", " "]) []).2).2.count 7 = 3 := by
  have hm : 7 ∉ Recogniser.allMeters ([.sequence [flatWord, blankWord]] ++ [flatWord]) := by decide
  have hends : (Recogniser.sequence [flatWord, blankWord]).parse (.ofAtoms ["F"]) =
      .error (.structural .nothingRemaining) := rfl
  have hmismatches : (Recogniser.sequence [flatWord, blankWord]).parse (.ofAtoms ["T"]) =
      .error (.mismatch 0 [.pattern "[F]"] "T") := rfl
  obtain ⟨-, -, -, hnotAsked⟩ := (recognisers_ask_in_turn 7 flatWord
    [.sequence [flatWord, blankWord]] [] (.ofAtoms ["F"]) []).2.1 hm
  obtain ⟨-, -, hasked, -⟩ := (recognisers_ask_in_turn 7 flatWord
    [.sequence [flatWord, blankWord]] [] (.ofAtoms ["T"]) []).2.1 hm
  obtain ⟨-, hshared⟩ := (recognisers_ask_in_turn 7 flatWord [] []
    (.ofAtoms ["F", " "]) []).2.2.2 fun r h => (Recogniser.asked 7 r h).length
  refine ⟨hm, hnotAsked fun hpassed => ?_, hasked fun p hp => ?_, ?_⟩
  · obtain ⟨_, _, _, e⟩ := hpassed _ List.mem_cons_self
    rw [hends] at e
    cases e
  · obtain rfl := List.mem_singleton.1 hp
    exact ⟨0, _, "T", hmismatches⟩
  · exact hshared (Recogniser.countsByRule_asked 7)
      [.metered 7 flatWord, .metered 7 blankWord]

end Swell

import Swell.Proofs.Pipeline.Calls

/-!
# The contract of a stage

A stage declares a tag for each of its arguments and one for what it gives. Main statements: on
slots that fill the declared tags the collaborator runs once, on exactly the values in them, and on
all others it does not run and the first bad slot says why; and around a typed collaborator the
contract adds nothing to what the collaborator gives.
-/
namespace Swell

/-- What is wrong with a slot where a value with a tag is expected. A fault from further up is
passed on. -/
inductive Slot.BadFor (expected : Tag) : Slot → Fault → Prop where
  | missing : BadFor expected none (.contract (.missingInput expected))
  | failed (fault : Fault) : BadFor expected (some (.error fault)) fault
  | untagged {v : Value} (h : v.tag? = none) :
    BadFor expected (some (.ok v)) (.contract (.missingTag expected))
  | mistagged {v : Value} {actual : Tag} (h : v.tag? = some actual) (hne : actual ≠ expected) :
    BadFor expected (some (.ok v)) (.contract (.wrongTag expected actual))

def Slot.Carries (expected : Tag) (slot : Slot) : Prop :=
  ∃ v : Value, slot = some (.ok v) ∧ v.tag? = some expected

theorem Slot.exists_validate_eq_ok_iff (slot : Slot) (expected : Tag) :
    (∃ v, slot.validate expected = .ok v) ↔ Carries expected slot := by
  simp only [validate_eq_ok_iff, Carries]

theorem Slot.validate_eq_error_iff (slot : Slot) (expected : Tag) (fault : Fault) :
    slot.validate expected = .error fault ↔ BadFor expected slot fault := by
  constructor
  · intro h
    match slot with
    | none =>
      cases h
      exact .missing
    | some (.error fault) =>
      cases h
      exact .failed fault
    | some (.ok v) =>
      cases htag : v.tag? with
      | none =>
        simp only [validate, htag, Except.error.injEq] at h
        exact h ▸ .untagged htag
      | some actual =>
        by_cases hne : actual = expected
        · simp [validate, htag, hne] at h
        · simp only [validate, htag, hne, if_false, Except.error.injEq] at h
          exact h ▸ .mistagged htag hne
  · intro h
    cases h with
    | missing => rfl
    | failed fault => rfl
    | untagged htag => simp [validate, htag]
    | mistagged htag hne => simp [validate, htag, hne]

namespace Stage

/-- The values are those in the first slots, one for each tag, and each has the tag of its
position. -/
structure Fills (tags : List Tag) (slots : List Slot) (values : List Value) : Prop where
  slots_eq : slots.take tags.length = values.map fun v => some (.ok v)
  tags_eq : values.map Value.tag? = tags.map some

/-- The slot at a position. Behind the last one all are empty. -/
def slotAt (slots : List Slot) (i : Nat) : Slot :=
  slots[i]?.getD none

/-- The fault is that of the first slot that is bad for the tag of its position. -/
def FirstBad (tags : List Tag) (slots : List Slot) (fault : Fault) : Prop :=
  ∃ i tag, tags[i]? = some tag ∧ Slot.BadFor tag (slotAt slots i) fault ∧
    ∀ j < i, ∀ t, tags[j]? = some t → Slot.Carries t (slotAt slots j)

def AllCarry (tags : List Tag) (slots : List Slot) : Prop :=
  ∀ i tag, tags[i]? = some tag → Slot.Carries tag (slotAt slots i)

theorem slotAt_zero (slots : List Slot) : slotAt slots 0 = slots.head?.getD none := by
  rw [slotAt, List.head?_eq_getElem?]

theorem slotAt_succ (slots : List Slot) (i : Nat) :
    slotAt slots (i + 1) = slotAt slots.tail i := by
  rw [slotAt, slotAt, List.getElem?_tail]

theorem arguments_eq_ok_iff_fills (tags : List Tag) (slots : List Slot) (values : List Value) :
    arguments tags slots = .ok values ↔ Fills tags slots values := by
  rw [arguments_eq_ok_iff]
  exact ⟨fun h => ⟨h.1, h.2⟩, fun h => ⟨h.slots_eq, h.tags_eq⟩⟩

theorem arguments_cons_eq_error_iff (tag : Tag) (tags : List Tag) (slots : List Slot)
    (fault : Fault) :
    arguments (tag :: tags) slots = .error fault ↔
      Slot.BadFor tag (slotAt slots 0) fault ∨
        Slot.Carries tag (slotAt slots 0) ∧ arguments tags slots.tail = .error fault := by
  rw [arguments, slotAt_zero, ← Slot.validate_eq_error_iff, ← Slot.exists_validate_eq_ok_iff]
  cases (slots.head?.getD none).validate tag with
  | error fault => simp
  | ok v => cases arguments tags slots.tail <;> simp

theorem firstBad_cons_iff (tag : Tag) (tags : List Tag) (slots : List Slot) (fault : Fault) :
    FirstBad (tag :: tags) slots fault ↔
      Slot.BadFor tag (slotAt slots 0) fault ∨
        Slot.Carries tag (slotAt slots 0) ∧ FirstBad tags slots.tail fault := by
  constructor
  · rintro ⟨i, t, ht, hbad, hbefore⟩
    cases i with
    | zero =>
      obtain rfl : tag = t := by simpa using ht
      exact .inl hbad
    | succ i =>
      rw [slotAt_succ] at hbad
      refine .inr ⟨hbefore 0 (Nat.succ_pos i) tag rfl, i, t, ht, hbad, fun j hj u hu => ?_⟩
      rw [← slotAt_succ]
      exact hbefore (j + 1) (Nat.succ_lt_succ hj) u hu
  · rintro (hbad | ⟨hfirst, i, t, ht, hbad, hbefore⟩)
    · exact ⟨0, tag, rfl, hbad, fun j hj => absurd hj (Nat.not_lt_zero j)⟩
    · rw [← slotAt_succ] at hbad
      refine ⟨i + 1, t, ht, hbad, fun j hj u hu => ?_⟩
      cases j with
      | zero =>
        obtain rfl : tag = u := by simpa using hu
        exact hfirst
      | succ j =>
        rw [slotAt_succ]
        exact hbefore j (Nat.lt_of_succ_lt_succ hj) u hu

theorem allCarry_cons_iff (tag : Tag) (tags : List Tag) (slots : List Slot) :
    AllCarry (tag :: tags) slots ↔
      Slot.Carries tag (slotAt slots 0) ∧ AllCarry tags slots.tail := by
  constructor
  · intro h
    refine ⟨h 0 tag rfl, fun i t ht => ?_⟩
    rw [← slotAt_succ]
    exact h (i + 1) t ht
  · rintro ⟨hfirst, hrest⟩ i t ht
    cases i with
    | zero =>
      obtain rfl : tag = t := by simpa using ht
      exact hfirst
    | succ i =>
      rw [slotAt_succ]
      exact hrest i t ht

theorem exists_fills_iff (tags : List Tag) (slots : List Slot) :
    (∃ values, Fills tags slots values) ↔ AllCarry tags slots := by
  simp only [← arguments_eq_ok_iff_fills]
  induction tags generalizing slots with
  | nil => simp [arguments, AllCarry]
  | cons tag tags ih =>
    rw [allCarry_cons_iff, ← ih, ← Slot.exists_validate_eq_ok_iff, slotAt_zero, arguments]
    cases (slots.head?.getD none).validate tag with
    | error fault => simp
    | ok v => cases arguments tags slots.tail <;> simp

/-- What is wrong with the arguments is what is wrong with the first bad slot. -/
theorem arguments_eq_error_iff (tags : List Tag) (slots : List Slot) (fault : Fault) :
    arguments tags slots = .error fault ↔ FirstBad tags slots fault := by
  induction tags generalizing slots with
  | nil => simp [arguments, FirstBad]
  | cons tag tags ih => rw [arguments_cons_eq_error_iff, firstBad_cons_iff, ih]

/-- What a stage owes for slots: `result` is what its call returns, `next` what it makes of the
world, and `further` the runs of the collaborator that it adds to a log. -/
structure Honours {σ : Type} (s : Stage (StateM σ)) (p : Place) (slots : List Slot) (world : σ)
    (result : Except Fault Value) (next : σ) (further : ExecutionLog) : Prop where
  /-- If all slots for declared tags carry them, the collaborator runs once, on the values in these
  slots. What it gives is returned if it is a value with the declared tag, and otherwise what is
  wrong with it. -/
  ran : AllCarry s.inputs slots → ∃ values given, Fills s.inputs slots values ∧
    (s.run values).run world = (given, next) ∧ further = [⟨p, values, given⟩] ∧
      (∀ v, result = .ok v ↔ given = some (.ok v) ∧ v.tag? = some s.output) ∧
      ∀ fault, result = .error fault ↔ Slot.BadFor s.output given fault
  /-- Otherwise it does not run, and the first bad slot says why. -/
  refused : ¬AllCarry s.inputs slots →
    further = [] ∧ next = world ∧ ∃ fault, FirstBad s.inputs slots fault ∧ result = .error fault
  /-- A value that is returned was given by the collaborator. -/
  returned : ∀ v, result = .ok v →
    v.tag? = some s.output ∧ ∃ values, further = [⟨p, values, some (.ok v)⟩]

theorem Calls.honours {σ : Type} {s : Stage (StateM σ)} {p : Place} {slots : List Slot} {world : σ}
    {result : Except Fault Value} {next : σ} {further : ExecutionLog}
    (h : s.Calls p slots world result next further) :
    s.Honours p slots world result next further := by
  cases h with
  | @refused fault h =>
    have hbad := (arguments_eq_error_iff _ _ _).1 h
    refine ⟨fun hall => ?_, fun _ => ⟨rfl, rfl, fault, hbad, rfl⟩, by simp⟩
    obtain ⟨values, hfills⟩ := (exists_fills_iff _ _).2 hall
    rw [(arguments_eq_ok_iff_fills _ _ _).2 hfills] at h
    cases h
  | @ran values given next h hrun =>
    have hfills := (arguments_eq_ok_iff_fills _ _ _).1 h
    refine ⟨fun _ => ?_, fun hnot => ?_, fun v hv => ?_⟩
    · exact ⟨values, given, hfills, hrun, rfl, fun v => Slot.validate_eq_ok_iff _ _ _,
        fun fault => Slot.validate_eq_error_iff _ _ _⟩
    · exact absurd ((exists_fills_iff _ _).1 ⟨values, hfills⟩) hnot
    · obtain ⟨rfl, htag⟩ := (Slot.validate_eq_ok_iff _ _ _).1 hv
      exact ⟨htag, values, rfl⟩

theorem arguments_take (tags : List Tag) (slots : List Slot) :
    arguments tags (slots.take tags.length) = arguments tags slots := by
  induction tags generalizing slots with
  | nil => rfl
  | cons tag tags ih =>
    cases slots with
    | nil => rfl
    | cons slot slots =>
      rw [List.length_cons, List.take_succ_cons, arguments, arguments]
      simp only [List.head?_cons, List.tail_cons, ih]

section Typed

variable {m : Type → Type} [Monad m]

/-- Slots behind those for the declared tags are not looked at. -/
theorem call_take (s : Stage m) (slots : List Slot) :
    s.call (slots.take s.inputs.length) = s.call slots := by
  rw [call, call, arguments_take]

theorem call_of_firstBad {s : Stage m} {slots : List Slot} {fault : Fault}
    (h : FirstBad s.inputs slots fault) : s.call slots = pure (.error fault) :=
  call_of_refused s slots fault ((arguments_eq_error_iff _ _ _).2 h)

variable {α β γ : Type} [Tagged α] [Tagged β] [Tagged γ]

theorem validate_map_toValue (result : Except Fault α) :
    Slot.validate (some (result.map Tagged.toValue)) (Tagged.tag α) =
      result.map Tagged.toValue := by
  cases result with
  | error fault => rfl
  | ok a =>
    have htag := Tagged.tag?_toValue a
    exact (Slot.validate_eq_ok_iff _ _ _).2 ⟨rfl, htag⟩

/-- What a typed collaborator gives passes the contract as it is. -/
theorem call_of_typed [LawfulMonad m] {s : Stage m} {slots : List Slot} {values : List Value}
    (result : m (Except Fault α)) (hfills : Fills s.inputs slots values)
    (houtput : s.output = Tagged.tag α)
    (hrun : s.run values = (fun r => some (r.map Tagged.toValue)) <$> result) :
    s.call slots = (fun r => r.map Tagged.toValue) <$> result := by
  rw [call_of_accepted ((arguments_eq_ok_iff_fills _ _ _).2 hfills), hrun, houtput, bind_map_left,
    map_eq_pure_bind]
  simp only [validate_map_toValue]

theorem exists_ofValue? {v : Value} (h : v.tag? = some (Tagged.tag α)) :
    ∃ a : α, Tagged.ofValue? v = some a :=
  Option.isSome_iff_exists.1 (Tagged.ofValue?_isSome v h)

theorem run_unary (name : String) (f : α → m (Except Fault β)) {v : Value} {a : α}
    (h : Tagged.ofValue? v = some a) :
    (unary name f).run [v] = (fun r => some (r.map Tagged.toValue)) <$> f a := by
  simp only [unary, List.head?_cons, Option.bind_some, h]
  rfl

theorem run_binary (name : String) (f : α → β → m (Except Fault γ)) {v w : Value} {a : α} {b : β}
    (ha : Tagged.ofValue? v = some a) (hb : Tagged.ofValue? w = some b) :
    (binary name f).run [v, w] = (fun r => some (r.map Tagged.toValue)) <$> f a b := by
  simp only [binary, List.head?_cons, List.tail_cons, Option.bind_some, ha, hb]
  rfl

theorem fills_singleton {tag : Tag} {slots : List Slot} {values : List Value}
    (h : Fills [tag] slots values) : ∃ v, values = [v] ∧ v.tag? = some tag := by
  have htags := h.tags_eq
  simp only [List.map_cons, List.map_nil, List.map_eq_singleton_iff] at htags
  exact htags

theorem fills_pair {tag tag' : Tag} {slots : List Slot} {values : List Value}
    (h : Fills [tag, tag'] slots values) :
    ∃ v w, values = [v, w] ∧ v.tag? = some tag ∧ w.tag? = some tag' := by
  have htags := h.tags_eq
  simp only [List.map_cons, List.map_nil, List.map_eq_cons_iff, List.map_eq_nil_iff] at htags
  obtain ⟨v, -, rfl, hv, w, -, rfl, hw, rfl⟩ := htags
  exact ⟨v, w, rfl, hv, hw⟩

theorem call_unary_of_allCarry [LawfulMonad m] (name : String) (f : α → m (Except Fault β))
    {slots : List Slot} (h : AllCarry [Tagged.tag α] slots) :
    ∃ v a, Fills [Tagged.tag α] slots [v] ∧ Tagged.ofValue? v = some a ∧
      (unary name f).run [v] = (fun r => some (r.map Tagged.toValue)) <$> f a ∧
      (unary name f).call slots = (fun r => r.map Tagged.toValue) <$> f a := by
  obtain ⟨values, hfills⟩ := (exists_fills_iff _ _).2 h
  obtain ⟨v, rfl, htag⟩ := fills_singleton hfills
  obtain ⟨a, ha⟩ := exists_ofValue? htag
  have hrun := run_unary name f ha
  exact ⟨v, a, hfills, ha, hrun, call_of_typed (f a) hfills rfl hrun⟩

theorem call_binary_of_allCarry [LawfulMonad m] (name : String) (f : α → β → m (Except Fault γ))
    {slots : List Slot} (h : AllCarry [Tagged.tag α, Tagged.tag β] slots) :
    ∃ v w a b, Fills [Tagged.tag α, Tagged.tag β] slots [v, w] ∧
      Tagged.ofValue? v = some a ∧ Tagged.ofValue? w = some b ∧
      (binary name f).run [v, w] = (fun r => some (r.map Tagged.toValue)) <$> f a b ∧
      (binary name f).call slots = (fun r => r.map Tagged.toValue) <$> f a b := by
  obtain ⟨values, hfills⟩ := (exists_fills_iff _ _).2 h
  obtain ⟨v, w, rfl, hv, hw⟩ := fills_pair hfills
  obtain ⟨a, ha⟩ := exists_ofValue? hv
  obtain ⟨b, hb⟩ := exists_ofValue? hw
  have hrun := run_binary name f ha hb
  exact ⟨v, w, a, b, hfills, ha, hb, hrun, call_of_typed (f a b) hfills rfl hrun⟩

end Typed

/-- A stage runs its collaborator once if the slots for its declared tags carry them, on the values
in these slots and whatever stands behind them, and returns what it gives as far as that has the
declared tag; otherwise it returns what is wrong with the first bad slot, and nothing has happened.
Around a typed collaborator, values with the declared tags are values of its types, and the call is
the collaborator's own result. -/
theorem stages_keep_their_contracts :
    (∀ (σ : Type) (s : Stage (StateM σ)) (p : Place) (slots : List Slot) (world : σ)
      (log : ExecutionLog),
      s.call (slots.take s.inputs.length) = s.call slots ∧
      ∃ result next further,
        (s.call slots).run world = (result, next) ∧
        ((s.noted p).call slots).run (world, log) = (result, next, log ++ further) ∧
        s.Honours p slots world result next further) ∧
    (∀ (m : Type → Type) [Monad m] [LawfulMonad m] (α β : Type) [Tagged α] [Tagged β]
      (name : String) (f : α → m (Except Fault β)) (slots : List Slot),
      (∀ fault, FirstBad [Tagged.tag α] slots fault →
        (unary name f).call slots = pure (.error fault)) ∧
      (AllCarry [Tagged.tag α] slots → ∃ v a,
        Fills [Tagged.tag α] slots [v] ∧ Tagged.ofValue? v = some a ∧
        (unary name f).run [v] = (fun r => some (r.map Tagged.toValue)) <$> f a ∧
        (unary name f).call slots = (fun r => r.map Tagged.toValue) <$> f a)) ∧
    ∀ (m : Type → Type) [Monad m] [LawfulMonad m] (α β γ : Type) [Tagged α] [Tagged β] [Tagged γ]
      (name : String) (f : α → β → m (Except Fault γ)) (slots : List Slot),
      (∀ fault, FirstBad [Tagged.tag α, Tagged.tag β] slots fault →
        (binary name f).call slots = pure (.error fault)) ∧
      (AllCarry [Tagged.tag α, Tagged.tag β] slots → ∃ v w a b,
        Fills [Tagged.tag α, Tagged.tag β] slots [v, w] ∧
        Tagged.ofValue? v = some a ∧ Tagged.ofValue? w = some b ∧
        (binary name f).run [v, w] = (fun r => some (r.map Tagged.toValue)) <$> f a b ∧
        (binary name f).call slots = (fun r => r.map Tagged.toValue) <$> f a b) := by
  refine ⟨fun σ s p slots world log => ⟨s.call_take slots, ?_⟩, ?_, ?_⟩
  · obtain ⟨result, next, further, hcalls⟩ := s.exists_calls p slots world
    exact ⟨result, next, further, hcalls.call_eq, hcalls.noted_call_eq log, hcalls.honours⟩
  · intro m _ _ α β _ _ name f slots
    exact ⟨fun fault hbad => call_of_firstBad hbad, call_unary_of_allCarry name f⟩
  · intro m _ _ α β γ _ _ _ name f slots
    exact ⟨fun fault hbad => call_of_firstBad hbad, call_binary_of_allCarry name f⟩

def countedSentence : Stage (StateM Nat) where
  name := "Count"
  inputs := [.sentence, .vessel]
  output := .sentence
  run values := fun count => (values.head?.map .ok, count + 1)

/-- It runs once on two slots with the right tags and one more, and not at all where the second one
has no tag. A typed stage gives what its collaborator gives, and has nothing to run on without
slots. -/
theorem countedSentence_runs_once_or_not_at_all :
    (AllCarry countedSentence.inputs
        [some (.ok (.sentence ⟨"F"⟩)), some (.ok (.vessel ⟨20, 8, false, true, 8⟩)), none] ∧
      (countedSentence.call
        [some (.ok (.sentence ⟨"F"⟩)), some (.ok (.vessel ⟨20, 8, false, true, 8⟩)), none]).run 0 =
          (.ok (.sentence ⟨"F"⟩), 1)) ∧
    (¬AllCarry countedSentence.inputs [some (.ok (.sentence ⟨"F"⟩)), some (.ok (.untagged .null))] ∧
      (countedSentence.call
        [some (.ok (.sentence ⟨"F"⟩)), some (.ok (.untagged .null))]).run 0 =
          (.error (.contract (.missingTag .vessel)), 0)) ∧
    (AllCarry [Tagged.tag Sentence] [some (.ok (.sentence ⟨"F"⟩))] ∧
      (unary "Echo" fun s : Sentence => (pure (.ok s) : Id (Except Fault Sentence))).call
        [some (.ok (.sentence ⟨"F"⟩))] = .ok (.sentence ⟨"F"⟩)) ∧
    FirstBad [Tagged.tag Sentence] [] (.contract (.missingInput .sentence)) ∧
      (unary "Echo" fun s : Sentence => (pure (.ok s) : Id (Except Fault Sentence))).call [] =
        .error (.contract (.missingInput .sentence)) := by
  obtain ⟨hstages, htyped, -⟩ := stages_keep_their_contracts
  refine ⟨?_, ?_, ?_, ?_⟩
  · obtain ⟨-, result, next, further, hcall, -, hhonours⟩ := hstages Nat countedSentence .limits
      [some (.ok (.sentence ⟨"F"⟩)), some (.ok (.vessel ⟨20, 8, false, true, 8⟩)), none] 0 []
    have hall : AllCarry countedSentence.inputs
        [some (.ok (.sentence ⟨"F"⟩)), some (.ok (.vessel ⟨20, 8, false, true, 8⟩)), none] :=
      (exists_fills_iff _ _).1 ⟨_, (arguments_eq_ok_iff_fills _ _ _).1 rfl⟩
    obtain ⟨values, given, hfills, hrun, -, hresult, -⟩ := hhonours.ran hall
    have hvalues := (arguments_eq_ok_iff_fills _ _ _).2 hfills
    cases hvalues
    cases hrun
    rw [hcall, (hresult (.sentence ⟨"F"⟩)).2 ⟨rfl, rfl⟩]
    exact ⟨hall, rfl⟩
  · obtain ⟨-, result, next, further, hcall, -, hhonours⟩ := hstages Nat countedSentence .limits
      [some (.ok (.sentence ⟨"F"⟩)), some (.ok (.untagged .null))] 0 []
    have hnot : ¬AllCarry countedSentence.inputs
        [some (.ok (.sentence ⟨"F"⟩)), some (.ok (.untagged .null))] := by
      rw [← exists_fills_iff]
      rintro ⟨values, hfills⟩
      have hvalues := (arguments_eq_ok_iff_fills _ _ _).2 hfills
      cases hvalues
    obtain ⟨-, rfl, fault, hbad, rfl⟩ := hhonours.refused hnot
    have hfault := (arguments_eq_error_iff _ _ _).2 hbad
    cases hfault
    exact ⟨hnot, hcall⟩
  · have hall : AllCarry [Tagged.tag Sentence] [some (.ok (.sentence ⟨"F"⟩))] :=
      (exists_fills_iff _ _).1 ⟨_, (arguments_eq_ok_iff_fills _ _ _).1 rfl⟩
    obtain ⟨v, a, hfills, ha, -, hcall⟩ := (htyped Id Sentence Sentence "Echo"
      (fun s => pure (.ok s)) [some (.ok (.sentence ⟨"F"⟩))]).2 hall
    have hvalues := (arguments_eq_ok_iff_fills _ _ _).2 hfills
    cases hvalues
    cases ha
    exact ⟨hall, hcall⟩
  · have hbad : FirstBad [Tagged.tag Sentence] [] (.contract (.missingInput .sentence)) :=
      (arguments_eq_error_iff _ _ _).1 rfl
    exact ⟨hbad, (htyped Id Sentence Sentence "Echo" (fun s => pure (.ok s)) []).1 _ hbad⟩

end Stage
end Swell

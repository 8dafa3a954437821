import Swell.Proofs.Recogniser.Drive
import Swell.Proofs.Recogniser.Faults

/-!
# How often a reading runs its unit

A meter around the unit of a reading counts the runs of the unit. Main statements: a meter that does
not occur in a recogniser is not counted by it; so a unit of single atoms runs once for each atom of
a sentence, up to the first atom that none of its tokens accepts, and the fault of that run is the
fault of the reading.
-/
namespace Swell

namespace Recogniser

mutual

def meters : Recogniser → List Nat
  | .token _ => []
  | .sequence items => allMeters items
  | .choice items => allMeters items
  | .repeated _ unit => unit.meters
  | .metered meter inner => meter :: inner.meters

def allMeters : List Recogniser → List Nat
  | [] => []
  | r :: rs => r.meters ++ allMeters rs

end

mutual

theorem count_parseLogged {meter : Nat} (r : Recogniser) (hr : meter ∉ r.meters) (h : History)
    (log : MeterLog) : (r.parseLogged h log).2.count meter = log.count meter := by
  match r with
  | .token t => rw [parseLogged]
  | .sequence items =>
    rw [meters] at hr
    rw [parseLogged]
    exact count_parseAllLogged items hr h log
  | .choice items =>
    rw [meters] at hr
    have hitems := count_parseFirstLogged items hr h log
    rw [parseLogged]
    rcases hl : parseFirstLogged items h log with ⟨result | result, log'⟩
    · rw [hl] at hitems
      exact hitems
    · rw [hl] at hitems
      exact hitems
  | .repeated count unit =>
    rw [meters] at hr
    rw [parseLogged]
    have hcount := count_stepTimesLogged (k := 0) (fun h log => unit.fst_parseLogged h log)
      (fun h log => count_parseLogged unit hr h log) count h log
    rwa [Nat.mul_zero] at hcount
  | .metered other inner =>
    rw [meters, List.mem_cons, not_or] at hr
    rw [parseLogged, count_parseLogged inner hr.2, List.count_cons_of_ne (Ne.symm hr.1)]

theorem count_parseAllLogged {meter : Nat} (rs : List Recogniser) (hrs : meter ∉ allMeters rs)
    (h : History) (log : MeterLog) :
    (parseAllLogged rs h log).2.count meter = log.count meter := by
  match rs with
  | [] => rw [parseAllLogged]
  | r :: rs =>
    rw [allMeters, List.mem_append, not_or] at hrs
    have hone := count_parseLogged r hrs.1 h log
    rw [parseAllLogged]
    rcases hl : r.parseLogged h log with ⟨fault | next, log'⟩
    · rw [hl] at hone
      exact hone
    · rw [hl] at hone
      exact (count_parseAllLogged rs hrs.2 next log').trans hone

theorem count_parseFirstLogged {meter : Nat} (rs : List Recogniser) (hrs : meter ∉ allMeters rs)
    (h : History) (log : MeterLog) :
    (parseFirstLogged rs h log).2.count meter = log.count meter := by
  match rs with
  | [] => rw [parseFirstLogged]
  | r :: rs =>
    rw [allMeters, List.mem_append, not_or] at hrs
    have hone := count_parseLogged r hrs.1 h log
    rw [parseFirstLogged]
    match hl : r.parseLogged h log with
    | (.ok next, log') =>
      rw [hl] at hone
      exact hone
    | (.error (.structural fault), log') =>
      rw [hl] at hone
      exact hone
    | (.error (.mismatch ..), log') =>
      rw [hl] at hone
      exact (count_parseFirstLogged rs hrs.2 h log').trans hone

end

theorem fst_driveLogged (r : Recogniser) (s : Sentence) (log : MeterLog) :
    (driveLogged r s log).1 = drive r s := by
  rw [driveLogged, drive]
  cases repetitions s with
  | error fault => rfl
  | ok count => exact fst_parseLogged _ _ log

theorem drive_metered (meter : Nat) (r : Recogniser) (s : Sentence) :
    drive (metered meter r) s = drive r s := by
  rw [drive, drive]
  cases repetitions s with
  | error fault => rfl
  | ok count => simp only [parse]

/-- How often a reading of the sentence runs the unit, as a meter around the unit counts it. -/
def runs (meter : Nat) (unit : Recogniser) (s : Sentence) : Nat :=
  (driveLogged (metered meter unit) s []).2.count meter

theorem runs_of_no_words (meter : Nat) (unit : Recogniser) {s : Sentence} (hw : s.words = []) :
    runs meter unit s = 0 := by
  rw [runs, driveLogged, repetitions, if_pos (s.wordCount_eq_zero_iff.2 hw)]
  rfl

/-- Each run of the unit is counted once, whatever the unit does in it. -/
theorem runs_eq_stepsMade {meter : Nat} {unit : Recogniser} (hm : meter ∉ unit.meters)
    {s : Sentence} (hw : s.words ≠ []) :
    runs meter unit s = stepsMade unit.parse s.atoms.length (.ofSentence s) := by
  have hstep : ∀ h log, ((metered meter unit).parseLogged h log).1 = unit.parse h := by
    intro h log
    rw [fst_parseLogged, parse_metered]
  have hcount : ∀ h log, ((metered meter unit).parseLogged h log).2.count meter =
      log.count meter + 1 := by
    intro h log
    rw [parseLogged, count_parseLogged unit hm, List.count_cons_self]
  rw [runs, driveLogged, repetitions, if_neg (mt s.wordCount_eq_zero_iff.1 hw), s.length_atoms]
  simp only [parseLogged]
  have hruns := count_stepTimesLogged hstep hcount (Sentence.atomCount s.wordCount)
    (.ofSentence s) []
  rwa [List.count_nil, Nat.zero_add, Nat.mul_one] at hruns

/-- A reading of the sentence with any step in place of the runs of a unit. -/
def driveBy (step : History → Except ParseFault History) (s : Sentence) :
    Except ParseFault History :=
  match repetitions s with
  | .error fault => .error (.structural fault)
  | .ok count => stepTimes step count (.ofSentence s)

theorem drive_eq_driveBy (unit : Recogniser) (s : Sentence) :
    drive unit s = driveBy unit.parse s := by
  rw [drive, driveBy]
  cases repetitions s with
  | error fault => rfl
  | ok count => simp only [parse]

/-- A reading is a fold of its step over the history of the sentence. -/
theorem driveBy_eq_foldlM (step : History → Except ParseFault History) {s : Sentence}
    (hw : s.words ≠ []) :
    driveBy step s = (List.replicate (2 * s.wordCount - 1) step).foldlM (fun h step => step h)
      (.ofSentence s) := by
  rw [driveBy, repetitions, if_neg (mt s.wordCount_eq_zero_iff.1 hw)]
  exact stepTimes_eq_foldlM step _ _

/-- A token in the recogniser, at any depth, accepts the atom. -/
def Matches (r : Recogniser) (atom : Atom) : Prop :=
  ∃ t, (token t).Occurs r ∧ t.pattern.accepts atom = true

mutual

theorem admits_iff_matches (r : Recogniser) (hr : r.isSingle = true) (atom : Atom) :
    r.admits atom = true ↔ r.Matches atom := by
  match r with
  | .token t =>
    rw [admits]
    constructor
    · intro ha
      exact ⟨t, .here, ha⟩
    · rintro ⟨t, ⟨⟩, ha⟩
      exact ha
  | .choice items =>
    rw [isSingle] at hr
    rw [admits, admitsAny_iff_matches items hr]
    constructor
    · rintro ⟨r, hr, t, ht, ha⟩
      exact ⟨t, .choice hr ht, ha⟩
    · rintro ⟨t, ht, ha⟩
      cases ht with
      | choice hr ht => exact ⟨_, hr, t, ht, ha⟩
  | .metered _ inner =>
    rw [isSingle] at hr
    rw [admits, admits_iff_matches inner hr]
    constructor
    · rintro ⟨t, ht, ha⟩
      exact ⟨t, .metered ht, ha⟩
    · rintro ⟨t, ht, ha⟩
      cases ht with
      | metered ht => exact ⟨t, ht, ha⟩
  | .sequence _ => simp [isSingle] at hr
  | .repeated .. => simp [isSingle] at hr

theorem admitsAny_iff_matches (rs : List Recogniser) (hrs : areSingle rs = true) (atom : Atom) :
    admitsAny rs atom = true ↔ ∃ r ∈ rs, r.Matches atom := by
  match rs with
  | [] => simp [admitsAny]
  | r :: rs =>
    rw [areSingle, Bool.and_eq_true] at hrs
    rw [admitsAny, Bool.or_eq_true, admits_iff_matches r hrs.1, admitsAny_iff_matches rs hrs.2]
    simp only [List.mem_cons, exists_eq_or_imp]

end

variable {unit : Recogniser} (hunit : unit.isSingle = true) {meter : Nat}
  (hm : meter ∉ unit.meters) {s : Sentence}
include hunit hm

/-- The unit runs once for each atom of a sentence that it reads to the end. -/
theorem runs_of_matches (hw : s.words ≠ []) (hall : ∀ atom ∈ s.atoms, unit.Matches atom) :
    drive unit s = .ok (.whole s) ∧ runs meter unit s = s.atoms.length := by
  have hread := drive_eq_ok hunit hw fun atom hatom =>
    (admits_iff_matches unit hunit atom).2 (hall atom hatom)
  rw [drive_eq_stepTimes unit hw] at hread
  rw [drive_eq_stepTimes unit hw, runs_eq_stepsMade hm hw]
  exact ⟨hread, stepsMade_of_ok hread⟩

/-- The unit runs up to the first atom that it refuses, and the fault is that of its last run. -/
theorem runs_of_not_matches {j : Nat} {atom : Atom} (hatom : s.atoms[j]? = some atom)
    (hrefused : ¬unit.Matches atom)
    (hbefore : ∀ i < j, ∀ a, s.atoms[i]? = some a → unit.Matches a) :
    unit.parse ((History.ofSentence s).advanceBy j) =
        .error (.mismatch j unit.expected atom) ∧
      drive unit s = .error (.mismatch j unit.expected atom) ∧ runs meter unit s = j + 1 := by
  have hstart : (History.ofSentence s).last? = some (State.start s.atoms) := rfl
  have hj : j < s.atoms.length := (List.getElem?_eq_some_iff.1 hatom).1
  have hw : s.words ≠ [] := s.atoms_ne_nil_iff.1 (List.ne_nil_of_mem (List.mem_of_getElem? hatom))
  have hnot : unit.admits atom = false := by
    rw [← Bool.not_eq_true, admits_iff_matches unit hunit]
    exact hrefused
  have hadmits : ∀ i < j, ∀ a, s.atoms[i]? = some a → unit.admits a = true :=
    fun i hi a ha => (admits_iff_matches unit hunit a).2 (hbefore i hi a ha)
  have hlast : unit.parse ((History.ofSentence s).advanceBy j) =
      .error (.mismatch j unit.expected atom) := by
    have hzero : (State.start s.atoms).position + j = j := Nat.zero_add j
    rw [parse_eq_takeIf hunit, History.takeIf_advanceBy_eq_error hstart hatom hnot, hzero]
  have hreached : stepTimes unit.parse j (.ofSentence s) =
      .ok ((History.ofSentence s).advanceBy j) := by
    rw [parse_eq_takeIf hunit]
    exact History.stepTimes_takeIf_eq_ok j hstart (Nat.le_of_lt hj) hadmits
  refine ⟨hlast, drive_eq_error hunit hatom hnot hadmits, ?_⟩
  rw [runs_eq_stepsMade hm hw]
  exact stepsMade_of_error hj hreached hlast

end Recogniser

open Recogniser in
/-- A unit of single atoms is never run for a sentence without words. It runs once for each atom of
a sentence that it reads to the end, and otherwise up to the first atom that none of its tokens
accepts, where the fault of its last run is that of the reading. A reading with any unit is a fold
of the unit, and would be so with any other step; it stops at the first fault. -/
theorem drive_runs_unit_for_each_atom (unit : Recogniser) (s : Sentence) :
    (unit.isSingle = true → ∀ meter, meter ∉ unit.meters →
      (driveLogged (.metered meter unit) s []).1 = drive unit s ∧
      (s.words = [] →
        drive unit s = .error (.structural .emptySentence) ∧ runs meter unit s = 0) ∧
      (s.words ≠ [] → (∀ atom ∈ s.atoms, unit.Matches atom) →
        ∃ history, drive unit s = .ok history ∧ history.length = 2 * s.wordCount ∧
          history.isComplete = true ∧ history.consumed = s.atoms ∧
          runs meter unit s = 2 * s.wordCount - 1) ∧
      ((∃ atom ∈ s.atoms, ¬unit.Matches atom) →
        ∃ (j : Nat) (atom : Atom) (expected : List Descriptor),
          s.atoms[j]? = some atom ∧ ¬unit.Matches atom ∧
          (∀ i < j, ∀ a, s.atoms[i]? = some a → unit.Matches a) ∧
          unit.parse ((History.ofSentence s).advanceBy j) = .error (.mismatch j expected atom) ∧
          drive unit s = .error (.mismatch j expected atom) ∧ runs meter unit s = j + 1) ∧
      drive unit s ≠ .error (.structural .emptyHistory) ∧
      drive unit s ≠ .error (.structural .nothingRemaining)) ∧
    drive unit s = driveBy unit.parse s ∧
    (s.words ≠ [] → ∀ step, driveBy step s =
      (List.replicate (2 * s.wordCount - 1) step).foldlM (fun h step => step h)
        (.ofSentence s)) := by
  refine ⟨fun hunit meter hm => ⟨?_, fun hw => ⟨?_, ?_⟩, fun hw hall => ?_, ?_, ?_⟩,
    drive_eq_driveBy unit s, fun hw step => driveBy_eq_foldlM step hw⟩
  · rw [fst_driveLogged, drive_metered]
  · exact drive_eq_error_of_no_words unit hw
  · exact runs_of_no_words meter unit hw
  · obtain ⟨hread, hruns⟩ := runs_of_matches hunit hm hw hall
    exact ⟨.whole s, hread, History.length_whole_eq_two_mul hw, History.isComplete_whole s,
      History.consumed_whole s, hruns.trans s.length_atoms⟩
  · rintro ⟨atom, hmem, hnot⟩
    rcases forall_mem_or_exists_first unit.Matches s.atoms with
      hall | ⟨j, first, hfirst, hrefused, hbefore⟩
    · exact absurd (hall atom hmem) hnot
    · exact ⟨j, first, _, hfirst, hrefused, hbefore,
        runs_of_not_matches hunit hm hfirst hrefused hbefore⟩
  · by_cases hw : s.words = []
    · rw [drive_eq_error_of_no_words unit hw]
      simp
    · exact ⟨drive_ne_structural hunit hw _, drive_ne_structural hunit hw _⟩

def flatOrBlank : Recogniser :=
  .choice [.choice [.token ⟨⟨"[F]", .one (.single 'F')⟩, .pattern "[F]"⟩],
    .token ⟨⟨"[\\s]", .one (.property .blank)⟩, .pattern "[\\s]"⟩]

/-- Two flat words and the separator between them take three runs. With a peak behind the separator,
the third run is the one that fails. -/
theorem flatOrBlank_runs_for_each_atom :
    Recogniser.runs 0 flatOrBlank ⟨""⟩ = 0 ∧ Recogniser.runs 0 flatOrBlank ⟨"F F"⟩ = 3 ∧
      ∃ expected, Recogniser.drive flatOrBlank ⟨"F P1"⟩ = .error (.mismatch 2 expected "P1") ∧
        Recogniser.runs 0 flatOrBlank ⟨"F P1"⟩ = 3 := by
  have hunit : flatOrBlank.isSingle = true := rfl
  have hm : (0 : Nat) ∉ flatOrBlank.meters := by decide
  have hmatches : ∀ atom, flatOrBlank.Matches atom ↔ flatOrBlank.admits atom = true :=
    fun atom => (Recogniser.admits_iff_matches flatOrBlank hunit atom).symm
  obtain ⟨-, hempty, -⟩ := (drive_runs_unit_for_each_atom flatOrBlank ⟨""⟩).1 hunit 0 hm
  obtain ⟨-, -, hflats, -⟩ := (drive_runs_unit_for_each_atom flatOrBlank ⟨"F F"⟩).1 hunit 0 hm
  obtain ⟨-, -, -, hpeak, -⟩ := (drive_runs_unit_for_each_atom flatOrBlank ⟨"F P1"⟩).1 hunit 0 hm
  refine ⟨(hempty rfl).2, ?_, ?_⟩
  · simp only [hmatches] at hflats
    obtain ⟨-, -, -, -, -, hruns⟩ := hflats (List.cons_ne_nil _ _) (by decide)
    exact hruns
  · simp only [hmatches] at hpeak
    have hrefused : ∃ atom ∈ (⟨"F P1"⟩ : Sentence).atoms, ¬flatOrBlank.admits atom = true := by
      decide
    obtain ⟨j, atom, expected, hatom, hnot, -, -, hread, hruns⟩ := hpeak hrefused
    -- the atoms in front of the peak are accepted, so it is the first that is not
    match j with
    | 0 | 1 =>
      obtain rfl := Option.some.inj hatom
      exact absurd (by decide) hnot
    | 2 =>
      obtain rfl := Option.some.inj hatom
      exact ⟨expected, hread, hruns⟩
    | j + 3 => cases hatom

end Swell

import Swell.Proofs.CommandLine.Agreement
import Swell.Proofs.History.Lines
import Swell.Proofs.Json.RoundTrip
import Swell.Proofs.Settings.Resolution

/-!
# Commands that fail and commands that report

Main statements: a command ends in the fault of its first step that fails, and then it has printed
nothing; otherwise it has printed a whole report, of one document or of four lines; and the lines of
a sentence's history are those of its seed, its words and its separators.
-/
namespace Swell

namespace Console

variable {α : Type} {texts : α → List String} {result : Except Fault α} {printed : List String}

theorem outcomeOf_eq_error_iff {fault : Fault} :
    outcomeOf texts result = (printed, .error fault) ↔ printed = [] ∧ result = .error fault := by
  cases result <;> simp [outcomeOf, eq_comm]

theorem outcomeOf_eq_ok_iff :
    outcomeOf texts result = (printed, .ok ()) ↔ ∃ a, result = .ok a ∧ printed = texts a := by
  cases result <;> simp [outcomeOf, eq_comm]

end Console

theorem Grammar.words_ne_nil_of_run {g : Grammar} {s : Sentence} {reading : Reading}
    (h : g.run s = .ok reading) : s.words ≠ [] := by
  intro hempty
  rw [Grammar.run, Recogniser.drive_eq_error_of_no_words g.any hempty] at h
  cases h

namespace Command

open Console

section Steps

variable (files : FileView) (options : CommandOptions) (vessel wave sentence : String)

/-- The first step of a run over a wave that fails, with its fault. -/
inductive RunFails : Fault → Prop where
  | settings {fault : LoadFault}
    (h : Settings.load files options.collection options.config = .error fault) :
    RunFails fault.toFault
  | vessel {settings : Settings} {fault : DocumentFault}
    (hsettings : Settings.load files options.collection options.config = .ok settings)
    (h : Vessel.load files vessel = .error fault) : RunFails (fault.toFault vessel)
  | wave {settings : Settings} {v : Vessel} {fault : DocumentFault}
    (hsettings : Settings.load files options.collection options.config = .ok settings)
    (hvessel : Vessel.load files vessel = .ok v) (h : Series.load files wave = .error fault) :
    RunFails (fault.toFault wave)
  | pipeline {settings : Settings} {v : Vessel} {w : Series Float} {fault : Fault}
    (hsettings : Settings.load files options.collection options.config = .ok settings)
    (hvessel : Vessel.load files vessel = .ok v) (hwave : Series.load files wave = .ok w)
    (h : Id.run ((Stages.ofSettings settings : Stages Id).runInputs v w).run = .error fault) :
    RunFails fault

/-- The limits of the vessel at a path, which has some, or those of no vessel in particular. -/
inductive LimitsFor : Option String → Limits → Prop where
  | none : LimitsFor none Limits.none
  | some {path : String} {v : Vessel} {limits : Limits} (hvessel : Vessel.load files path = .ok v)
    (h : v.limits = .ok limits) : LimitsFor (some path) limits

/-- The first step of reading a sentence that fails, with its fault. -/
inductive ParseFails : Option String → Fault → Prop where
  | settings {path : Option String} {fault : LoadFault}
    (h : Settings.load files options.collection options.config = .error fault) :
    ParseFails path fault.toFault
  | vessel {settings : Settings} {path : String} {fault : DocumentFault}
    (hsettings : Settings.load files options.collection options.config = .ok settings)
    (h : Vessel.load files path = .error fault) : ParseFails (some path) (fault.toFault path)
  | limits {settings : Settings} {path : String} {v : Vessel} {fault : BadDimension}
    (hsettings : Settings.load files options.collection options.config = .ok settings)
    (hvessel : Vessel.load files path = .ok v) (h : v.limits = .error fault) :
    ParseFails (some path) fault.toFault
  | reading {settings : Settings} {path : Option String} {limits : Limits} {grammar : Grammar}
    {fault : ParseFault}
    (hsettings : Settings.load files options.collection options.config = .ok settings)
    (hlimits : LimitsFor files path limits)
    (hgrammar : Grammar.generate settings.collection settings.rules limits = .ok grammar)
    (h : grammar.run ⟨sentence⟩ = .error fault) : ParseFails path (.parse fault)

/-- A wave's report, where no step fails. -/
inductive RunReports : Report → Prop where
  | intro {settings : Settings} {v : Vessel} {w : Series Float} {reading : Reading}
    (hsettings : Settings.load files options.collection options.config = .ok settings)
    (hvessel : Vessel.load files vessel = .ok v) (hwave : Series.load files wave = .ok w)
    (h : Id.run ((Stages.ofSettings settings : Stages Id).runInputs v w).run = .ok reading) :
    RunReports ⟨settings.collection.name, String.join reading.history.consumed, reading⟩

/-- A sentence's report, where no step fails. -/
inductive ParseReports : Option String → Report → Prop where
  | intro {settings : Settings} {path : Option String} {limits : Limits} {grammar : Grammar}
    {reading : Reading}
    (hsettings : Settings.load files options.collection options.config = .ok settings)
    (hlimits : LimitsFor files path limits)
    (hgrammar : Grammar.generate settings.collection settings.rules limits = .ok grammar)
    (h : grammar.run ⟨sentence⟩ = .ok reading) :
    ParseReports path ⟨settings.collection.name, sentence, reading⟩

end Steps

variable {files : FileView} {options : CommandOptions} {vessel wave sentence : String}
  {fault : Fault}

theorem runReport_eq_error_iff :
    runReport files options vessel wave = .error fault ↔
      RunFails files options vessel wave fault := by
  simp only [runReport, bind_eq_error_iff, mapError_eq_error_iff, mapError_eq_ok_iff]
  constructor
  · rintro (⟨_, h, rfl⟩ | ⟨settings, hs, ⟨_, h, rfl⟩ | ⟨v, hv, ⟨_, h, rfl⟩ | ⟨w, hw, h⟩⟩⟩)
    · exact .settings h
    · exact .vessel hs h
    · exact .wave hs hv h
    · obtain h | ⟨_, -, h⟩ := h
      · exact .pipeline hs hv hw ((Stages.run_ofSettings settings v w).trans h)
      · cases h
  · rintro (⟨h⟩ | ⟨hs, h⟩ | ⟨hs, hv, h⟩ | ⟨hs, hv, hw, h⟩)
    · exact .inl ⟨_, h, rfl⟩
    · exact .inr ⟨_, hs, .inl ⟨_, h, rfl⟩⟩
    · exact .inr ⟨_, hs, .inr ⟨_, hv, .inl ⟨_, h, rfl⟩⟩⟩
    · rw [Stages.run_ofSettings] at h
      exact .inr ⟨_, hs, .inr ⟨_, hv, .inr ⟨_, hw, .inl h⟩⟩⟩

theorem limitsOf_eq_ok_iff {path : Option String} {limits : Limits} :
    limitsOf files path = .ok limits ↔ LimitsFor files path limits := by
  cases path with
  | none =>
    constructor
    · intro h
      cases h
      exact .none
    · rintro ⟨⟩
      rfl
  | some path =>
    simp only [limitsOf, bind_eq_ok_iff, mapError_eq_ok_iff]
    constructor
    · rintro ⟨v, hv, h⟩
      exact .some hv h
    · rintro (_ | ⟨hv, h⟩)
      exact ⟨_, hv, h⟩

/-- Whatever the limits are, there is a grammar for settings that can be loaded. -/
theorem exists_grammar_of_load {settings : Settings} (limits : Limits)
    (h : Settings.load files options.collection options.config = .ok settings) :
    ∃ grammar, Grammar.generate settings.collection settings.rules limits = .ok grammar := by
  obtain ⟨o, ho⟩ := Settings.exists_overlay_of_load h
  exact ⟨_, Grammar.generate_eq_ok _ _ (Overlay.sound_of_resolve ho).levels_le⟩

theorem limitsOf_eq_error_iff {path : Option String} :
    limitsOf files path = .error fault ↔ ∃ p, path = some p ∧
      ((∃ f, Vessel.load files p = .error f ∧ f.toFault p = fault) ∨
        ∃ v, Vessel.load files p = .ok v ∧ ∃ f, v.limits = .error f ∧ f.toFault = fault) := by
  cases path with
  | none => simp [limitsOf]
  | some path =>
    simp only [limitsOf, bind_eq_error_iff, mapError_eq_error_iff, mapError_eq_ok_iff,
      Option.some_inj, exists_eq_left']

theorem sentenceReport_eq_error_iff {settings : Settings} {limits : Limits} {grammar : Grammar}
    (hgrammar : Grammar.generate settings.collection settings.rules limits = .ok grammar) :
    sentenceReport settings sentence limits = .error fault ↔
      ∃ f, grammar.run ⟨sentence⟩ = .error f ∧ .parse f = fault := by
  simp only [sentenceReport, hgrammar, bind_eq_error_iff, mapError_eq_error_iff,
    mapError_eq_ok_iff]
  simp

theorem parseReport_eq_error_iff {path : Option String} :
    parseReport files options sentence path = .error fault ↔
      ParseFails files options sentence path fault := by
  simp only [parseReport, bind_eq_error_iff, mapError_eq_error_iff, mapError_eq_ok_iff,
    limitsOf_eq_ok_iff, limitsOf_eq_error_iff]
  constructor
  · rintro (⟨_, h, rfl⟩ | ⟨settings, hs, ⟨p, rfl, hvessel⟩ | ⟨limits, hl, h⟩⟩)
    · exact .settings h
    · obtain ⟨_, h, rfl⟩ | ⟨v, hv, _, h, rfl⟩ := hvessel
      · exact .vessel hs h
      · exact .limits hs hv h
    · obtain ⟨grammar, hg⟩ := exists_grammar_of_load limits hs
      obtain ⟨f, hf, rfl⟩ := (sentenceReport_eq_error_iff hg).1 h
      exact .reading hs hl hg hf
  · rintro (⟨h⟩ | ⟨hs, h⟩ | ⟨hs, hv, h⟩ | ⟨hs, hl, hg, h⟩)
    · exact .inl ⟨_, h, rfl⟩
    · exact .inr ⟨_, hs, .inl ⟨_, rfl, .inl ⟨_, h, rfl⟩⟩⟩
    · exact .inr ⟨_, hs, .inl ⟨_, rfl, .inr ⟨_, hv, _, h, rfl⟩⟩⟩
    · exact .inr ⟨_, hs, .inr ⟨_, hl, (sentenceReport_eq_error_iff hg).2 ⟨_, h, rfl⟩⟩⟩

variable {report : Report}

theorem runReports_of_runReport (h : runReport files options vessel wave = .ok report) :
    RunReports files options vessel wave report := by
  obtain ⟨settings, v, w, reading, hs, hv, hw, houtcome, rfl⟩ := runReport_eq_ok_iff.1 h
  exact .intro hs hv hw ((Stages.run_ofSettings settings v w).trans houtcome)

theorem parseReports_of_parseReport {path : Option String}
    (h : parseReport files options sentence path = .ok report) :
    ParseReports files options sentence path report := by
  simp only [parseReport, sentenceReport, bind_eq_ok_iff, mapError_eq_ok_iff,
    limitsOf_eq_ok_iff] at h
  obtain ⟨settings, hs, limits, hl, grammar, hg, reading, hreading, hreport⟩ := h
  cases hreport
  exact .intro hs hl hg hreading

theorem ParseReports.whole {path : Option String}
    (h : ParseReports files options sentence path report) :
    report.reading.history = .whole ⟨sentence⟩ ∧ Sentence.words ⟨sentence⟩ ≠ [] := by
  obtain ⟨hs, hl, hg, hrun⟩ := h
  exact ⟨Grammar.history_eq_whole hg hrun, Grammar.words_ne_nil_of_run hrun⟩

theorem ParseReports.length_history {path : Option String}
    (h : ParseReports files options sentence path report) :
    report.reading.history.length = 2 * Sentence.wordCount ⟨sentence⟩ := by
  obtain ⟨hwhole, hwords⟩ := h.whole
  rw [hwhole, History.length_whole_eq_two_mul hwords]

theorem ParseReports.hasLines {path : Option String}
    (h : ParseReports files options sentence path report) :
    Sentence.HasLines ⟨sentence⟩ report.reading.history.lines := by
  obtain ⟨hwhole, hwords⟩ := h.whole
  rw [hwhole]
  exact History.hasLines_whole hwords

end Command

/-- The texts are one document, with the number of the states and the states themselves. It reads
back as this object, unless there are more states than 64 bits count. -/
def Report.IsDocument (r : Report) (texts : List String) : Prop :=
  ∃ fields states, texts = [(Json.object fields).pretty] ∧
    (r.reading.history.length < 2 ^ 64 →
      Json.read? (Json.object fields).pretty = some (.object fields)) ∧
    Json.field? fields "states" = some (.whole r.reading.history.length) ∧
    Json.field? fields "history" = some (.array states) ∧
    states = r.reading.history.toList.map State.toJson ∧
    states.length = r.reading.history.length

theorem Json.plain_ofNat (level : Nat) {n : Nat} (hn : n < 2 ^ 64) : Plain level (.whole n) :=
  .whole level (by omega) (by omega)

theorem State.plain_toJson {s : State} (hs : s.position < 2 ^ 64) : s.toJson.Plain 2 := by
  have hremaining : (Json.array (s.remaining.map .string)).Plain 1 := by
    refine .array fun item hitem => ?_
    obtain ⟨atom, -, rfl⟩ := List.mem_map.1 hitem
    exact .string 0 atom
  refine .object fun field hfield => ?_
  simp only [List.mem_cons, List.not_mem_nil, or_false] at hfield
  obtain rfl | rfl | rfl := hfield
  · exact hremaining
  · dsimp only
    split
    · exact .null 1
    · exact .string 1 _
  · exact Json.plain_ofNat 1 hs

/-- A history that reads some atoms numbers its states from zero, so that no position is greater
than the number of the states. -/
theorem Report.plain_toJson {r : Report} {atoms : List Atom} (hr : r.reading.history.Reads atoms)
    (hlength : r.reading.history.length < 2 ^ 64) : r.toJson.Plain 4 := by
  have hhistory : (Json.array (r.reading.history.toList.map State.toJson)).Plain 3 := by
    refine .array fun item hitem => ?_
    obtain ⟨s, hs, rfl⟩ := List.mem_map.1 hitem
    obtain ⟨i, hi, hget⟩ := List.getElem_of_mem hs
    have hposition : s.position = i :=
      hr.position i s (by rw [History.get?_eq_toList, List.getElem?_eq_getElem hi, hget])
    rw [History.length_toList] at hi
    exact State.plain_toJson (by omega)
  refine .object fun field hfield => ?_
  simp only [List.mem_cons, List.not_mem_nil, or_false] at hfield
  obtain rfl | rfl | rfl | rfl | rfl := hfield
  · exact .string 3 _
  · exact .string 3 _
  · exact Json.plain_ofNat 3 hlength
  · exact .string 3 _
  · exact hhistory

theorem Report.isDocument_pretty {r : Report} {atoms : List Atom}
    (hr : r.reading.history.Reads atoms) : r.IsDocument [r.toJson.pretty] :=
  ⟨_, _, rfl, fun hlength => (Report.plain_toJson hr hlength).read?_pretty (by decide), rfl, rfl,
    rfl, by simp⟩

theorem Command.ParseReports.isDocument {files : FileView} {options : CommandOptions}
    {sentence : String} {path : Option String} {report : Report}
    (h : ParseReports files options sentence path report) :
    report.IsDocument [report.toJson.pretty] := by
  have hreads : report.reading.history.Reads (Sentence.atoms ⟨sentence⟩) := by
    rw [h.whole.1]
    exact History.reads_whole ⟨sentence⟩
  exact Report.isDocument_pretty hreads

open Command

/-- A command that ends in a fault has printed nothing, and the fault is that of its first step that
fails. A command that succeeds has printed its report to the end: one document, or four lines, which
the lines of the history precede where a sentence was read. -/
theorem commands_report_or_print_nothing :
    (∀ (files : FileView) (vessel wave : String) (options : CommandOptions)
      (printed : List String),
      (∀ fault, (performRun files vessel wave options).outcome = (printed, .error fault) ↔
        printed = [] ∧ RunFails files options vessel wave fault) ∧
      ((performRun files vessel wave options).outcome = (printed, .ok ()) →
        ∃ report, RunReports files options vessel wave report ∧
          report.reading.history.length = 2 * Sentence.wordCount ⟨report.sentence⟩ ∧
          (options.json = true → report.IsDocument printed) ∧
          (options.json = false → printed = report.lines ∧ printed.length = 4))) ∧
    ∀ (files : FileView) (sentence : String) (vessel : Option String) (options : CommandOptions)
      (printed : List String),
      (∀ fault, (performParse files sentence vessel options).outcome = (printed, .error fault) ↔
        printed = [] ∧ ParseFails files options sentence vessel fault) ∧
      ((performParse files sentence vessel options).outcome = (printed, .ok ()) →
        ∃ report, ParseReports files options sentence vessel report ∧
          report.reading.history.length = 2 * Sentence.wordCount ⟨sentence⟩ ∧
          (options.json = true → report.IsDocument printed) ∧
          (options.json = false → ∃ lines, printed = lines ++ report.lines ∧
            report.lines.length = 4 ∧ Sentence.HasLines ⟨sentence⟩ lines)) := by
  constructor
  · intro files vessel wave options printed
    rw [outcome_performRun]
    refine ⟨fun _ => by rw [Console.outcomeOf_eq_error_iff, runReport_eq_error_iff], fun h => ?_⟩
    obtain ⟨report, hreport, rfl⟩ := Console.outcomeOf_eq_ok_iff.1 h
    have hagain := parseReports_of_parseReport (parseReport_of_runReport hreport)
    refine ⟨report, runReports_of_runReport hreport, hagain.length_history, fun hjson => ?_,
      fun hjson => ?_⟩
    · rw [hjson]
      exact hagain.isDocument
    · rw [hjson]
      exact ⟨rfl, report.length_lines⟩
  · intro files sentence vessel options printed
    rw [outcome_performParse]
    refine ⟨fun _ => by rw [Console.outcomeOf_eq_error_iff, parseReport_eq_error_iff], fun h => ?_⟩
    obtain ⟨report, hreport, rfl⟩ := Console.outcomeOf_eq_ok_iff.1 h
    have hreports := parseReports_of_parseReport hreport
    refine ⟨report, hreports, hreports.length_history, fun hjson => ?_, fun hjson => ?_⟩
    · rw [hjson]
      exact hreports.isDocument
    · rw [hjson]
      exact ⟨_, rfl, report.length_lines, hreports.hasLines⟩

theorem Console.exists_printed_of_isOk {outcome : List String × Except Fault Unit}
    (h : outcome.2.isOk = true) : ∃ printed, outcome = (printed, .ok ()) := by
  obtain ⟨printed, result⟩ := outcome
  obtain ⟨⟨⟩, rfl⟩ := isOk_iff.1 h
  exact ⟨printed, rfl⟩

/-- Two words with blanks of two kinds between them make four lines, and four more for the report,
or one document, which reads back with four states. No run gets beyond a vessel that is not there.
-/
theorem two_words_are_reported_in_eight_texts :
    (∃ printed,
      (performParse (fun _ => .error .notFound) "P1 \tF" none ⟨some .beta, none, false⟩).outcome =
        (printed, .ok ()) ∧
      printed.length = 8 ∧ printed[0]? = some "   0  (seed)" ∧ printed[1]? = some "   1  P1" ∧
      printed[2]? = some "   2  (separator)" ∧ printed[3]? = some "   3  F") ∧
    (∃ text fields states,
      (performParse (fun _ => .error .notFound) "P1 \tF" none ⟨some .beta, none, true⟩).outcome =
        ([text], .ok ()) ∧
      Json.read? text = some (.object fields) ∧ Json.field? fields "states" = some (.whole 4) ∧
      Json.field? fields "history" = some (.array states) ∧ states.length = 4) ∧
    (performRun (fun _ => .error .notFound) "dinghy.vs.json" "calm.wv.json"
        ⟨some .beta, none, true⟩).outcome =
      ([], .error (.input "dinghy.vs.json" "No such file or directory (os error 2)")) := by
  obtain ⟨hrun, hparse⟩ := commands_report_or_print_nothing
  have hwords : Sentence.words ⟨"P1 \tF"⟩ = ["P1", "F"] := by decide +kernel
  have hcount : Sentence.wordCount ⟨"P1 \tF"⟩ = 2 := congrArg List.length hwords
  refine ⟨?_, ?_, ?_⟩
  · have hok : (performParse (fun _ => .error .notFound) "P1 \tF" none
        ⟨some .beta, none, false⟩).outcome.2.isOk = true := by
      decide +kernel
    obtain ⟨printed, hprinted⟩ := Console.exists_printed_of_isOk hok
    obtain ⟨report, -, -, -, htext⟩ := (hparse _ _ _ _ printed).2 hprinted
    obtain ⟨lines, rfl, hfour, hlines⟩ := htext rfl
    have hlength : lines.length = 4 := by rw [hlines.length, hcount]
    have hget {i : Nat} (hi : i < 4) : (lines ++ report.lines)[i]? = lines[i]? :=
      List.getElem?_append_left (by omega)
    refine ⟨_, hprinted, by rw [List.length_append, hlength, hfour], ?_, ?_, ?_, ?_⟩
    · rw [hget (by decide), hlines.seed]
      decide +kernel
    · rw [hget (by decide), hlines.word 0 "P1" (by rw [hwords]; rfl)]
      decide +kernel
    · rw [hget (by decide), hlines.separator 1 (by decide) (by rw [hcount]; decide)]
      decide +kernel
    · rw [hget (by decide), hlines.word 1 "F" (by rw [hwords]; rfl)]
      decide +kernel
  · have hok : (performParse (fun _ => .error .notFound) "P1 \tF" none
        ⟨some .beta, none, true⟩).outcome.2.isOk = true := by
      decide +kernel
    obtain ⟨printed, hprinted⟩ := Console.exists_printed_of_isOk hok
    obtain ⟨report, -, hlength, hdocument, -⟩ := (hparse _ _ _ _ printed).2 hprinted
    rw [hcount] at hlength
    obtain ⟨fields, states, rfl, hread, hstates, hhistory, -, hlist⟩ := hdocument rfl
    rw [hlength] at hread hstates hlist
    exact ⟨_, fields, states, hprinted, hread (by decide), hstates, hhistory, hlist⟩
  · refine ((hrun _ _ _ _ _).1 _).2 ⟨rfl, ?_⟩
    have hsettings : Settings.load (fun _ => .error .notFound) (some .beta) none =
        .ok (Overlay.resolved {} (some .beta)) := by
      change (Overlay.resolve {} (some .beta)).mapError LoadFault.unsound = _
      exact mapError_eq_ok_iff.2 (Overlay.resolve_eq_ok_iff.2 ⟨rfl, rfl⟩)
    have hvessel : Vessel.load (fun _ => .error .notFound) "dinghy.vs.json" =
        .error (.unreadable .notFound) := by
      have hmarks : DocumentKind.vessel.marks "dinghy.vs.json" = true := by decide +kernel
      rw [Vessel.load, DocumentKind.fields, hmarks]
      rfl
    exact .vessel hsettings hvessel

end Swell

import Swell.Proofs.CommandLine.Reports
import Swell.Proofs.History.Lines

/-!
# Captured and displayed texts

A buffer puts a line end between two texts where it holds something already, and a terminal puts one
behind each text. Main statements: a buffer loses the empty texts that come first, and nothing else;
so it holds what a terminal shows, without the last line end, unless an empty text comes first of
several; and no command prints such texts.
-/
namespace Swell

theorem capture_of_ne {buffer : String} (h : buffer ≠ "") (text : String) :
    capture buffer text = buffer ++ "\n" ++ text := by
  rw [capture, if_neg (by simpa using h)]

theorem foldl_capture_of_ne {buffer : String} (h : buffer ≠ "") (texts : List String) :
    texts.foldl capture buffer = "\n".intercalate (buffer :: texts) := by
  induction texts generalizing buffer with
  | nil => rw [List.foldl_nil, String.intercalate_singleton]
  | cons text texts ih =>
    have hne : buffer ++ "\n" ++ text ≠ "" := by simp [h]
    rw [List.foldl_cons, capture_of_ne h, ih hne, String.append_assoc,
      String.intercalate_cons_append, String.intercalate_cons_append,
      String.intercalate_cons_cons, String.append_assoc]

theorem captured_cons_empty (texts : List String) : captured ("" :: texts) = captured texts := rfl

theorem captured_cons_of_ne {text : String} (h : text ≠ "") (texts : List String) :
    captured (text :: texts) = "\n".intercalate (text :: texts) :=
  foldl_capture_of_ne h texts

/-- A buffer holds the texts from the first one on that is not empty, with a line end between each
two of them. -/
theorem captured_eq (texts : List String) :
    captured texts = "\n".intercalate (texts.dropWhile String.isEmpty) := by
  induction texts with
  | nil => rfl
  | cons text texts ih =>
    by_cases htext : text = ""
    · subst htext
      rw [captured_cons_empty, ih, List.dropWhile_cons_of_pos rfl]
    · rw [captured_cons_of_ne htext, List.dropWhile_cons_of_neg (by simpa using htext)]

theorem displayed_cons (text : String) (texts : List String) :
    displayed (text :: texts) = text ++ "\n" ++ displayed texts := by
  rw [displayed, List.map_cons, String.join_cons, displayed]

theorem displayed_eq {texts : List String} (h : texts ≠ []) :
    displayed texts = "\n".intercalate texts ++ "\n" := by
  induction texts with
  | nil => exact absurd rfl h
  | cons text texts ih =>
    cases texts with
    | nil => simp [displayed]
    | cons next texts =>
      rw [displayed_cons, ih (List.cons_ne_nil _ _), String.intercalate_cons_cons]
      simp only [String.append_assoc]

theorem length_captured_le (texts : List String) :
    (captured texts).length ≤ ("\n".intercalate texts).length := by
  induction texts with
  | nil => exact le_rfl
  | cons text texts ih =>
    by_cases htext : text = ""
    · subst htext
      rw [captured_cons_empty]
      cases texts with
      | nil => exact le_rfl
      | cons next texts =>
        rw [String.intercalate_cons_cons, String.length_append]
        exact ih.trans (Nat.le_add_left _ _)
    · rw [captured_cons_of_ne htext]

/-- An empty text comes first of several. -/
def BeginsEmpty (texts : List String) : Prop :=
  ∃ next rest, texts = "" :: next :: rest

theorem not_beginsEmpty_of_head? {texts : List String} (h : texts.head? ≠ some "") :
    ¬BeginsEmpty texts := by
  rintro ⟨next, rest, rfl⟩
  exact h rfl

theorem not_beginsEmpty_singleton (text : String) : ¬BeginsEmpty [text] := by
  rintro ⟨next, rest, h⟩
  cases h

theorem captured_ne_of_beginsEmpty {texts : List String} (h : BeginsEmpty texts) :
    captured texts ≠ "\n".intercalate texts := by
  obtain ⟨next, rest, rfl⟩ := h
  intro heq
  -- the line end behind the first text is missing, so the buffer is too short
  have hle := length_captured_le (next :: rest)
  have hone : "\n".length = 1 := rfl
  rw [captured_cons_empty] at heq
  rw [heq, String.intercalate_cons_cons, String.length_append, String.length_append, hone] at hle
  omega

theorem captured_eq_intercalate_iff (texts : List String) :
    captured texts = "\n".intercalate texts ↔ ¬BeginsEmpty texts := by
  refine ⟨fun h hbegins => captured_ne_of_beginsEmpty hbegins h, fun h => ?_⟩
  cases texts with
  | nil => rfl
  | cons text texts =>
    by_cases htext : text = ""
    · subst htext
      cases texts with
      | nil => rfl
      | cons next rest => exact absurd ⟨next, rest, rfl⟩ h
    · exact captured_cons_of_ne htext texts

/-- A buffer holds the texts from the first one on that is not empty. Exactly if no empty text comes
first of several it holds them all, with a line end between each two, and so what a terminal shows
without the last line end. -/
theorem empty_texts_in_front_are_not_captured (texts : List String) :
    captured texts = "\n".intercalate (texts.dropWhile String.isEmpty) ∧
    (captured texts = "\n".intercalate texts ↔ ¬BeginsEmpty texts) ∧
    (texts ≠ [] → (displayed texts = captured texts ++ "\n" ↔ ¬BeginsEmpty texts)) := by
  refine ⟨captured_eq texts, captured_eq_intercalate_iff texts, fun hne => ?_⟩
  rw [displayed_eq hne, String.append_left_inj, eq_comm, captured_eq_intercalate_iff]

/-- Empty texts behind the first one are kept, one of them at the end. -/
theorem empty_texts_behind_are_captured :
    ["calm", "", "swell", ""] ≠ [] ∧
      captured ["calm", "", "swell", ""] = "calm\n\nswell\n" ∧
      displayed ["calm", "", "swell", ""] = captured ["calm", "", "swell", ""] ++ "\n" := by
  have hne : ["calm", "", "swell", ""] ≠ [] := List.cons_ne_nil _ _
  have hbegins : ¬BeginsEmpty ["calm", "", "swell", ""] :=
    not_beginsEmpty_of_head? (by decide)
  obtain ⟨hcaptured, -, hdisplayed⟩ :=
    empty_texts_in_front_are_not_captured ["calm", "", "swell", ""]
  exact ⟨hne, hcaptured.trans (by decide +kernel), (hdisplayed hne).2 hbegins⟩

/-- A buffer misses the blank line that a terminal begins with. -/
theorem blank_line_in_front_is_lost :
    captured ["", "calm"] = "calm" ∧ displayed ["", "calm"] = "\ncalm\n" ∧
      ¬∀ texts : List String, captured texts = "\n".intercalate texts := by
  refine ⟨by decide +kernel, by decide +kernel, fun h => ?_⟩
  exact captured_ne_of_beginsEmpty ⟨"calm", [], rfl⟩ (h ["", "calm"])

theorem State.line_ne_empty (s : State) : s.line ≠ "" := by
  simp [State.line_eq, numberedLine]

theorem Report.not_beginsEmpty_texts (r : Report) (json : Bool) : ¬BeginsEmpty (r.texts json) := by
  cases json with
  | true => exact not_beginsEmpty_singleton _
  | false => exact not_beginsEmpty_of_head? (by simp [texts, lines])

namespace Command

theorem not_beginsEmpty_parseTexts (json : Bool) (r : Report) :
    ¬BeginsEmpty (parseTexts json r) := by
  cases json with
  | true => exact r.not_beginsEmpty_texts true
  | false =>
    rw [parseTexts, if_neg Bool.false_ne_true, History.lines]
    cases r.reading.history.toList with
    | nil => exact r.not_beginsEmpty_texts false
    | cons first rest => exact not_beginsEmpty_of_head? (by simp [first.line_ne_empty])

variable (files : FileView) (command : Command)

theorem not_beginsEmpty_printed : ¬BeginsEmpty (command.perform files).outcome.1 := by
  have hnone : ¬BeginsEmpty [] := not_beginsEmpty_of_head? (by simp)
  cases command with
  | run vessel wave options =>
    rw [perform, outcome_performRun]
    cases runReport files options vessel wave with
    | error fault => exact hnone
    | ok report => exact report.not_beginsEmpty_texts options.json
  | parse sentence vessel options =>
    rw [perform, outcome_performParse]
    cases parseReport files options sentence vessel with
    | error fault => exact hnone
    | ok report => exact not_beginsEmpty_parseTexts options.json report

/-- Of what a command prints, a buffer loses nothing. -/
theorem captured_printed :
    captured (command.perform files).outcome.1 =
      "\n".intercalate (command.perform files).outcome.1 :=
  (captured_eq_intercalate_iff _).2 (command.not_beginsEmpty_printed files)

end Command
end Swell

import Mathlib.Algebra.Group.Nat.Even
import Swell.Proofs.Settings.Check
import Swell.Proofs.Signal.Bins
import Swell.Settings.Load

/-!
# Settings from presets and documents

Main statements: the settings that a document stands for are those of the resolved preset, with
exactly the parts that it sets replaced, and they are loaded if they pass the check; so whatever is
loaded is sound, and a file gives what its text gives.
-/
namespace Swell

theorem Scalar.isPositive_iff (x : Float) :
    isPositive x = true ↔ x.isFinite = true ∧ 0 < x := by
  rw [isPositive, Bool.and_eq_true]
  exact and_congr_right fun _ => decide_eq_true_iff

theorem isAscending_iff {bounds : List Float} (hfinite : ∀ b ∈ bounds, b.isFinite = true) :
    isAscending bounds = true ↔ bounds.Pairwise fun a b => a < b := by
  refine ⟨pairwise_lt_of_isAscending hfinite, fun h => ?_⟩
  rw [← List.isChain_iff_pairwise, ← forall_mem_zip_tail_iff] at h
  rw [isAscending, List.all_eq_true]
  intro p hp
  obtain ⟨hleft, hright⟩ := List.of_mem_zip hp
  have hnot : ¬p.2 ≤ p.1 := (Scalar.not_le_iff_lt
    (Scalar.isNaN_eq_false_of_isFinite (hfinite p.2 (List.mem_of_mem_tail hright)))
    (Scalar.isNaN_eq_false_of_isFinite (hfinite p.1 hleft))).2 (h p hp)
  simpa [Scalar.le] using hnot

/-- A margin is finite and greater than zero. Bounds are even in number, finite and in ascending
order, and there are some. -/
def Classifier.Valid : Classifier Float → Prop
  | .neighbour margin => margin.isFinite = true ∧ 0 < margin
  | .breakpoints bounds =>
    bounds ≠ [] ∧ Even bounds.length ∧ (∀ b ∈ bounds, b.isFinite = true) ∧
      bounds.Pairwise fun a b => a < b

theorem Classifier.check_eq_ok_iff_valid (c : Classifier Float) : c.check = .ok () ↔ c.Valid := by
  cases c with
  | neighbour margin =>
    rw [check, Valid, ← Scalar.isPositive_iff]
    cases Scalar.isPositive margin <;> simp
  | breakpoints bounds =>
    have hcount : (bounds.isEmpty || bounds.length % 2 == 1) = false ↔
        bounds ≠ [] ∧ Even bounds.length := by
      rw [Bool.or_eq_false_iff, List.isEmpty_eq_false_iff, Nat.even_iff]
      simp
    have hbounds : (bounds.all Scalar.isFinite && isAscending bounds) = true ↔
        (∀ b ∈ bounds, b.isFinite = true) ∧ bounds.Pairwise fun a b => a < b := by
      rw [Bool.and_eq_true, List.all_eq_true]
      exact and_congr_right isAscending_iff
    rw [check, Valid, ← and_assoc, ← hcount, ← hbounds]
    cases bounds.isEmpty || bounds.length % 2 == 1 <;>
      cases bounds.all Scalar.isFinite && isAscending bounds <;> simp

/-- A part that may be set has the value it is set to, and otherwise the one it had before. -/
structure Replaced {α : Type} (set : Option α) (before after : α) : Prop where
  eq_of_set : ∀ a, set = some a → after = a
  eq_of_not_set : set = none → after = before

theorem replaced_getD {α : Type} (set : Option α) (before : α) :
    Replaced set before (set.getD before) := by
  cases set with
  | none => exact ⟨by simp, fun _ => rfl⟩
  | some a => exact ⟨fun b hb => Option.some.inj hb, by simp⟩

theorem Replaced.eq_getD {α : Type} {set : Option α} {before after : α}
    (h : Replaced set before after) : after = set.getD before := by
  cases set with
  | none => exact h.eq_of_not_set rfl
  | some a => exact h.eq_of_set a rfl

/-- The collection that is chosen comes first, then the one that a document names. -/
inductive ResolvesTo : (chosen named : Option Collection) → Collection → Prop where
  | chosen (c : Collection) (named : Option Collection) : ResolvesTo (some c) named c
  | named (c : Collection) : ResolvesTo none (some c) c
  | neither : ResolvesTo none none .alpha

theorem resolvesTo_getD_or (chosen named : Option Collection) :
    ResolvesTo chosen named ((chosen.or named).getD .alpha) := by
  cases chosen with
  | some c => exact .chosen c named
  | none =>
    cases named with
    | some c => exact .named c
    | none => exact .neither

namespace Overlay

/-- Settings in which the overlay has replaced what it sets, and nothing else. -/
structure LaidOver (o : Overlay) (before after : Settings) : Prop where
  collection : after.collection = before.collection
  step : Replaced o.step before.sampling.step after.sampling.step
  classifier : Replaced o.classifier before.sampling.classifier after.sampling.classifier
  levels : Replaced o.levels before.rules.levels after.rules.levels
  semantics : Replaced o.semantics before.rules.semantics after.rules.semantics
  enforcement : Replaced o.enforcement before.rules.enforcement after.rules.enforcement
  heights : Replaced o.heights before.rules.heights after.rules.heights

theorem laidOver_apply (o : Overlay) (s : Settings) : o.LaidOver s (o.apply s) where
  collection := rfl
  step := replaced_getD _ _
  classifier := replaced_getD _ _
  levels := replaced_getD _ _
  semantics := replaced_getD _ _
  enforcement := replaced_getD _ _
  heights := replaced_getD _ _

theorem LaidOver.eq_apply {o : Overlay} {before after : Settings} (h : o.LaidOver before after) :
    after = o.apply before := by
  obtain ⟨collection, ⟨step, classifier⟩, levels, semantics, enforcement, heights⟩ := after
  simp only [apply, ← h.collection, ← h.step.eq_getD, ← h.classifier.eq_getD, ← h.levels.eq_getD,
    ← h.semantics.eq_getD, ← h.enforcement.eq_getD, ← h.heights.eq_getD]

/-- The settings that an overlay stands for, before they are checked. -/
def resolved (o : Overlay) (chosen : Option Collection) : Settings :=
  o.apply (Settings.preset ((chosen.or o.collection).getD .alpha))

theorem resolve_eq_ok_iff {o : Overlay} {chosen : Option Collection} {s : Settings} :
    o.resolve chosen = .ok s ↔ s = o.resolved chosen ∧ (o.resolved chosen).check = .ok () := by
  change ((o.resolved chosen).check >>= fun _ => .ok (o.resolved chosen)) = .ok s ↔ _
  rw [bind_eq_ok_iff]
  constructor
  · rintro ⟨_, hcheck, hs⟩
    exact ⟨(Except.ok.inj hs).symm, hcheck⟩
  · rintro ⟨rfl, hcheck⟩
    exact ⟨(), hcheck, rfl⟩

theorem resolve_eq_error_iff {o : Overlay} {chosen : Option Collection} {fault : SettingsFault} :
    o.resolve chosen = .error fault ↔ (o.resolved chosen).check = .error fault := by
  change ((o.resolved chosen).check >>= fun _ => .ok (o.resolved chosen)) = .error fault ↔ _
  rw [bind_eq_error_iff]
  simp

theorem sound_of_resolve {o : Overlay} {chosen : Option Collection} {s : Settings}
    (h : o.resolve chosen = .ok s) : s.Sound := by
  obtain ⟨rfl, hcheck⟩ := resolve_eq_ok_iff.1 h
  exact (Settings.check_eq_ok_iff _).1 hcheck

theorem load_eq_ok_iff {files : FileView} {path : String} {o : Overlay} :
    load files path = .ok o ↔ ∃ text, files path = .ok text ∧ read? text = some o := by
  rw [load, bind_eq_ok_iff]
  simp only [mapError_eq_ok_iff]
  refine exists_congr fun text => and_congr_right fun _ => ?_
  cases read? text <;> simp

end Overlay

namespace Settings

theorem collection_preset (c : Collection) : (preset c).collection = c := by
  cases c <;> rfl

/-- Settings that are loaded come from an overlay: that of the file, or the empty one. -/
theorem exists_overlay_of_load {files : FileView} {chosen : Option Collection}
    {path : Option String} {s : Settings} (h : load files chosen path = .ok s) :
    ∃ o : Overlay, o.resolve chosen = .ok s := by
  cases path with
  | none =>
    change (Overlay.resolve {} chosen).mapError LoadFault.unsound = .ok s at h
    exact ⟨{}, mapError_eq_ok_iff.1 h⟩
  | some path =>
    change (Overlay.load files path >>= fun o => (o.resolve chosen).mapError .unsound) = .ok s at h
    obtain ⟨o, -, hresolve⟩ := bind_eq_ok_iff.1 h
    exact ⟨o, mapError_eq_ok_iff.1 hresolve⟩

theorem exists_overlay_of_ofText {text : String} {s : Settings} (h : ofText text = .ok s) :
    ∃ o : Overlay, o.resolve none = .ok s := by
  rw [ofText] at h
  cases ho : Overlay.read? text with
  | none =>
    rw [ho] at h
    cases h
  | some o =>
    rw [ho] at h
    exact ⟨o, mapError_eq_ok_iff.1 h⟩

variable {files : FileView} {path text : String} {o : Overlay} (chosen : Option Collection)
  (hf : files path = .ok text) (ho : Overlay.read? text = some o)
include hf ho

theorem load_eq_resolve :
    load files chosen (some path) = (o.resolve chosen).mapError .unsound := by
  have hload : Overlay.load files path = .ok o := Overlay.load_eq_ok_iff.2 ⟨text, hf, ho⟩
  simp only [load, hload]
  rfl

theorem load_eq_ok_iff_check (s : Settings) :
    load files chosen (some path) = .ok s ↔
      s = o.resolved chosen ∧ (o.resolved chosen).check = .ok () := by
  rw [load_eq_resolve chosen hf ho, mapError_eq_ok_iff, Overlay.resolve_eq_ok_iff]

theorem load_eq_error_iff_check (fault : Fault) :
    (load files chosen (some path)).mapError LoadFault.toFault = .error fault ↔
      ∃ f, (o.resolved chosen).check = .error f ∧ fault = f.toFault := by
  rw [load_eq_resolve chosen hf ho]
  simp only [mapError_eq_error_iff, Overlay.resolve_eq_error_iff]
  constructor
  · rintro ⟨_, ⟨f, hf, rfl⟩, rfl⟩
    exact ⟨f, hf, rfl⟩
  · rintro ⟨f, hf, rfl⟩
    exact ⟨_, ⟨f, hf, rfl⟩, rfl⟩

end Settings

/-- A document that can be read stands for the settings of the resolved preset, with what it sets
replaced: they are loaded if they pass the check, and otherwise its fault is reported. The text
alone gives what its file gives if no collection is chosen. Whatever is loaded is sound. -/
theorem loaded_settings_follow_their_document :
    (∀ (files : FileView) (path text : String) (o : Overlay) (chosen : Option Collection),
      files path = .ok text → Overlay.read? text = some o →
      Settings.ofText text = Settings.load files none (some path) ∧
      ∃ c settings, ResolvesTo chosen o.collection c ∧
        o.LaidOver (Settings.preset c) settings ∧ settings.collection = c ∧
        (∀ s, Settings.load files chosen (some path) = .ok s ↔
          s = settings ∧ settings.check = .ok ()) ∧
        ∀ fault, (Settings.load files chosen (some path)).mapError LoadFault.toFault =
          .error fault ↔ ∃ f, settings.check = .error f ∧ fault = f.toFault) ∧
    (∀ (files : FileView) (chosen : Option Collection) (path : Option String) (s : Settings),
      Settings.load files chosen path = .ok s → s.Sound ∧ s.sampling.classifier.Valid) ∧
    ∀ (text : String) (s : Settings),
      Settings.ofText text = .ok s → s.Sound ∧ s.sampling.classifier.Valid := by
  have hsound : ∀ (o : Overlay) (chosen : Option Collection) (s : Settings),
      o.resolve chosen = .ok s → s.Sound ∧ s.sampling.classifier.Valid := by
    intro o chosen s h
    have hs := Overlay.sound_of_resolve h
    exact ⟨hs, s.sampling.classifier.check_eq_ok_iff_valid.1 hs.classifier⟩
  refine ⟨fun files path text o chosen hf ho => ⟨(Settings.load_of_read? hf ho).symm, ?_⟩, ?_, ?_⟩
  · refine ⟨_, _, resolvesTo_getD_or chosen o.collection, o.laidOver_apply _, ?_,
      Settings.load_eq_ok_iff_check chosen hf ho, Settings.load_eq_error_iff_check chosen hf ho⟩
    exact Settings.collection_preset _
  · intro files chosen path s h
    obtain ⟨o, hresolve⟩ := Settings.exists_overlay_of_load h
    exact hsound o chosen s hresolve
  · intro text s h
    obtain ⟨o, hresolve⟩ := Settings.exists_overlay_of_ofText h
    exact hsound o none s hresolve

/-- An overlay without floating-point numbers is told by the parts that it sets. -/
theorem Overlay.read?_eq_some {text : String} {collection : Option Collection}
    {levels : Option Nat} {semantics : Option Semantics} {enforcement : Option Enforcement}
    (h : ((read? text).any fun o => o.collection == collection && o.levels == levels &&
      o.semantics == semantics && o.enforcement == enforcement && o.step.isNone &&
      o.classifier.isNone && o.heights.isNone) = true) :
    read? text = some { collection, levels, semantics, enforcement } := by
  obtain ⟨⟨_, _, _, _, _, _, _⟩, ho, hparts⟩ := (Option.any_eq_true _ _).1 h
  simp only [Bool.and_eq_true, beq_iff_eq, Option.isNone_iff_eq_none] at hparts
  obtain ⟨⟨⟨⟨⟨⟨rfl, rfl⟩, rfl⟩, rfl⟩, rfl⟩, rfl⟩, rfl⟩ := hparts
  exact ho

/-- Two levels are too few for the preset with three, and the check says so. A document that only
makes the grammar strict leaves the rest of the preset that it names. -/
theorem documents_over_beta_are_checked :
    (Settings.load (fun _ => .ok "collection: beta\ngrammar:\n  levels: 2\n") none
        (some "two.yaml")).mapError LoadFault.toFault =
      .error (.config "the classifier produces 3 levels but the grammar only names 2") ∧
    ∃ s, Settings.load (fun _ => .ok "collection: beta\ngrammar:\n  enforcement: strict\n") none
        (some "strict.yaml") = .ok s ∧
      s.collection = .beta ∧ s.rules.enforcement = .strict ∧ s.rules.levels = 3 ∧ s.Sound := by
  obtain ⟨hdocument, hsound, -⟩ := loaded_settings_follow_their_document
  constructor
  · have ho : Overlay.read? "collection: beta\ngrammar:\n  levels: 2\n" =
        some { collection := some .beta, levels := some 2 } :=
      Overlay.read?_eq_some (by decide +kernel)
    obtain ⟨-, c, settings, hc, hlaid, -, -, hfault⟩ := hdocument
      (fun _ => .ok "collection: beta\ngrammar:\n  levels: 2\n") "two.yaml" _ _ none rfl ho
    cases hc
    rw [hlaid.eq_apply] at hfault
    exact (hfault _).2 ⟨.unnamedLevels 3 2, rfl, rfl⟩
  · have ho : Overlay.read? "collection: beta\ngrammar:\n  enforcement: strict\n" =
        some { collection := some .beta, enforcement := some .strict } :=
      Overlay.read?_eq_some (by decide +kernel)
    obtain ⟨-, c, settings, hc, hlaid, -, hload, -⟩ := hdocument
      (fun _ => .ok "collection: beta\ngrammar:\n  enforcement: strict\n") "strict.yaml" _ _ none
      rfl ho
    cases hc
    rw [hlaid.eq_apply] at hload
    have hloaded := (hload _).2 ⟨rfl, rfl⟩
    exact ⟨_, hloaded, rfl, rfl, rfl, (hsound _ _ _ _ hloaded).1⟩

end Swell

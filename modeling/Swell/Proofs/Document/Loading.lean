import Swell.Proofs.Document.Fields
import Swell.Proofs.Document.Marks

/-!
# Loading documents

Main statements: a document is loaded exactly if its name has the mark of its kind and its text is
an object whose fields describe something of the kind, and then what they describe is loaded;
otherwise the first check that fails says why.
-/
namespace Swell

open Json (FieldIs field?)

namespace DocumentKind

/-- The name of the file has the mark of the kind, and its text is a JSON value. -/
structure Holds (kind : DocumentKind) (files : FileView) (path : String) (j : Json) : Prop where
  marked : kind.Marked path
  parsed : ∃ text, files path = .ok text ∧ Json.read? text = some j

/-- Why no document of the kind is loaded: the first check that fails. -/
inductive Refuses (kind : DocumentKind) (Described : List (String × Json) → Prop)
    (files : FileView) (path : String) : DocumentFault → Prop where
  | unmarked (h : ¬kind.Marked path) : Refuses kind Described files path (.unmarked kind)
  | unreadable {fault : FileFault} (hmarked : kind.Marked path) (h : files path = .error fault) :
    Refuses kind Described files path (.unreadable fault)
  | notJson {text : String} (hmarked : kind.Marked path) (htext : files path = .ok text)
    (h : Json.read? text = none) : Refuses kind Described files path .notJson
  | notObject {j : Json} (hj : kind.Holds files path j) (h : ∀ fields, j ≠ .object fields) :
    Refuses kind Described files path .notObject
  | missing {fields : List (String × Json)} {names : List String}
    (hfields : kind.Holds files path (.object fields)) (hne : names ≠ [])
    (horder : names.Sublist kind.properties)
    (h : ∀ name, name ∈ names ↔ name ∈ kind.properties ∧ field? fields name = none) :
    Refuses kind Described files path (.missing names)
  | shape {fields : List (String × Json)} {fault : Json.ShapeFault}
    (hfields : kind.Holds files path (.object fields))
    (hpresent : ∀ name ∈ kind.properties, (field? fields name).isSome = true)
    (h : ¬Described fields) : Refuses kind Described files path (.shape fault)

variable {kind : DocumentKind} {Described : List (String × Json) → Prop} {files : FileView}
  {path : String}

def missing (kind : DocumentKind) (fields : List (String × Json)) : List String :=
  kind.properties.filter fun name => (field? fields name).isNone

theorem missing_eq_nil_iff {fields : List (String × Json)} :
    kind.missing fields = [] ↔
      ∀ name ∈ kind.properties, (field? fields name).isSome = true := by
  simp [missing, List.filter_eq_nil_iff, Option.isSome_iff_ne_none]

theorem missing_congr {fields fields' : List (String × Json)}
    (h : ∀ name ∈ kind.properties, field? fields name = field? fields' name) :
    kind.missing fields = kind.missing fields' :=
  List.filter_congr fun name hname => by rw [h name hname]

theorem fields_of_holds {fields : List (String × Json)}
    (h : kind.Holds files path (.object fields)) :
    kind.fields files path =
      if kind.missing fields = [] then .ok fields else .error (.missing (kind.missing fields)) := by
  obtain ⟨hmarked, text, htext, hread⟩ := h
  rw [DocumentKind.fields, marks_iff.2 hmarked, htext]
  simp only [Except.mapError, bind, Except.bind, hread, List.isEmpty_iff]
  rfl

theorem fields_of_not_marked (h : ¬kind.Marked path) :
    kind.fields files path = .error (.unmarked kind) := by
  rw [DocumentKind.fields, Bool.eq_false_iff.2 (mt marks_iff.1 h)]
  rfl

theorem fields_of_unreadable (hmarked : kind.Marked path) {fault : FileFault}
    (h : files path = .error fault) : kind.fields files path = .error (.unreadable fault) := by
  rw [DocumentKind.fields, marks_iff.2 hmarked, h]
  rfl

theorem fields_of_not_json (hmarked : kind.Marked path) {text : String}
    (htext : files path = .ok text) (h : Json.read? text = none) :
    kind.fields files path = .error .notJson := by
  rw [DocumentKind.fields, marks_iff.2 hmarked, htext]
  simp only [Except.mapError, bind, Except.bind, h]
  rfl

theorem fields_of_not_object {j : Json} (hj : kind.Holds files path j)
    (h : ∀ fields, j ≠ .object fields) : kind.fields files path = .error .notObject := by
  obtain ⟨hmarked, text, htext, hread⟩ := hj
  rw [DocumentKind.fields, marks_iff.2 hmarked, htext]
  simp only [Except.mapError, bind, Except.bind, hread]
  cases j with
  | object fields => exact absurd rfl (h fields)
  | _ => rfl

/-- A document of the kind is an object, or the first check that fails says why it is none. -/
theorem holds_object_or_refuses (kind : DocumentKind) (files : FileView) (path : String) :
    (∃ fields, kind.Holds files path (.object fields)) ∨
      ∃ fault, kind.fields files path = .error fault ∧
        ∀ Described, kind.Refuses Described files path fault := by
  by_cases hmarked : kind.Marked path
  swap
  · exact .inr ⟨_, fields_of_not_marked hmarked, fun _ => .unmarked hmarked⟩
  cases htext : files path with
  | error fault =>
    exact .inr ⟨_, fields_of_unreadable hmarked htext, fun _ => .unreadable hmarked htext⟩
  | ok text =>
    cases hread : Json.read? text with
    | none =>
      exact .inr
        ⟨_, fields_of_not_json hmarked htext hread, fun _ => .notJson hmarked htext hread⟩
    | some j =>
      have hj : kind.Holds files path j := ⟨hmarked, text, htext, hread⟩
      by_cases hobject : ∃ fields, j = .object fields
      · obtain ⟨fields, rfl⟩ := hobject
        exact .inl ⟨fields, hj⟩
      · have hno := not_exists.1 hobject
        exact .inr ⟨_, fields_of_not_object hj hno, fun _ => .notObject hj hno⟩

theorem fields_eq_ok_iff {fields : List (String × Json)} :
    kind.fields files path = .ok fields ↔
      kind.Holds files path (.object fields) ∧
        ∀ name ∈ kind.properties, (field? fields name).isSome = true := by
  rw [← missing_eq_nil_iff]
  constructor
  · intro h
    obtain ⟨fields', hholds⟩ | ⟨fault, hfault, -⟩ := holds_object_or_refuses kind files path
    · rw [fields_of_holds hholds] at h
      split at h
      · rename_i hmissing
        cases h
        exact ⟨hholds, hmissing⟩
      · cases h
    · rw [hfault] at h
      cases h
  · rintro ⟨hholds, hmissing⟩
    rw [fields_of_holds hholds, if_pos hmissing]

/-- The shapes of the fields are not looked at before all of them are there. -/
theorem fields_ne_shape (fault : Json.ShapeFault) :
    kind.fields files path ≠ .error (.shape fault) := by
  intro h
  obtain ⟨fields, hholds⟩ | ⟨f, hf, hrefuses⟩ := holds_object_or_refuses kind files path
  · rw [fields_of_holds hholds] at h
    split at h <;> cases h
  · rw [hf] at h
    cases h
    cases hrefuses fun _ => True with
    | shape _ _ hno => exact hno trivial

theorem refuses_missing {fields : List (String × Json)}
    (hfields : kind.Holds files path (.object fields)) (hne : kind.missing fields ≠ []) :
    kind.Refuses Described files path (.missing (kind.missing fields)) := by
  refine .missing hfields hne List.filter_sublist fun name => ?_
  rw [missing, List.mem_filter, Option.isNone_iff_eq_none]

/-- A loader gives what the fields of a document describe, and the first check that fails where
nothing is described, as a fault of the input at the path. All that counts in a document is what
stands in the fields that its kind asks for. -/
structure LoadedBy {α : Type} (kind : DocumentKind) (Describes : List (String × Json) → α → Prop)
    (load : FileView → String → Except DocumentFault α) : Prop where
  eq_ok_iff : ∀ files path a, load files path = .ok a ↔
    ∃ fields, kind.Holds files path (.object fields) ∧ Describes fields a
  reported : ∀ files path fault, (load files path).mapError (·.toFault path) = .error fault →
    ∃ f, load files path = .error f ∧ fault = .input path f.message ∧
      kind.Refuses (fun fields => ∃ a, Describes fields a) files path f
  congr : ∀ files files' path path' fields fields',
    kind.Holds files path (.object fields) → kind.Holds files' path' (.object fields') →
    (∀ name ∈ kind.properties, field? fields name = field? fields' name) →
    load files path = load files' path'
  unordered : ∀ files files' path path' fields fields',
    kind.Holds files path (.object fields) → kind.Holds files' path' (.object fields') →
    (fields.map Prod.fst).Nodup → (fields'.map Prod.fst).Nodup →
    (∀ name ∈ kind.properties, ∀ j, (name, j) ∈ fields ↔ (name, j) ∈ fields') →
    load files path = load files' path'

section Loaders

variable {α : Type} {take : List (String × Json) → Except Json.ShapeFault α}
  {Describes : List (String × Json) → α → Prop}
  (hok : ∀ fields a, take fields = .ok a ↔ Describes fields a)
include hok

theorem refuses_of_take {f : DocumentFault}
    (h : (kind.fields files path >>= fun fields => (take fields).mapError .shape) = .error f) :
    kind.Refuses (fun fields => ∃ a, Describes fields a) files path f := by
  obtain ⟨fields, hholds⟩ | ⟨fault, hfault, hrefuses⟩ := holds_object_or_refuses kind files path
  · rw [fields_of_holds hholds] at h
    by_cases hmissing : kind.missing fields = []
    · rw [if_pos hmissing] at h
      change (take fields).mapError DocumentFault.shape = .error f at h
      cases htake : take fields with
      | error g =>
        rw [htake] at h
        cases h
        refine .shape hholds (missing_eq_nil_iff.1 hmissing) ?_
        rintro ⟨a, ha⟩
        rw [(hok fields a).2 ha] at htake
        cases htake
      | ok a =>
        rw [htake] at h
        cases h
    · rw [if_neg hmissing] at h
      cases h
      exact refuses_missing hholds hmissing
  · rw [hfault] at h
    cases h
    exact hrefuses _

theorem take_eq_ok_iff
    (hsome : ∀ fields a, Describes fields a → ∀ name ∈ kind.properties,
      (field? fields name).isSome = true) {a : α} :
    (kind.fields files path >>= fun fields => (take fields).mapError .shape) = .ok a ↔
      ∃ fields, kind.Holds files path (.object fields) ∧ Describes fields a := by
  simp only [bind_eq_ok_iff, mapError_eq_ok_iff, hok, fields_eq_ok_iff]
  constructor
  · rintro ⟨fields, ⟨hholds, -⟩, ha⟩
    exact ⟨fields, hholds, ha⟩
  · rintro ⟨fields, hholds, ha⟩
    exact ⟨fields, ⟨hholds, hsome fields a ha⟩, ha⟩

omit hok in
theorem take_congr {files' : FileView} {path' : String} {fields fields' : List (String × Json)}
    (hcongr : ∀ {fields fields'}, (∀ name ∈ kind.properties,
      field? fields name = field? fields' name) → take fields = take fields')
    (hfields : kind.Holds files path (.object fields))
    (hfields' : kind.Holds files' path' (.object fields'))
    (h : ∀ name ∈ kind.properties, field? fields name = field? fields' name) :
    (kind.fields files path >>= fun fields => (take fields).mapError DocumentFault.shape) =
      kind.fields files' path' >>= fun fields => (take fields).mapError .shape := by
  rw [fields_of_holds hfields, fields_of_holds hfields', missing_congr h]
  split
  · change (take fields).mapError _ = (take fields').mapError _
    rw [hcongr h]
  · rfl

theorem loadedBy_of_take
    (hsome : ∀ fields a, Describes fields a → ∀ name ∈ kind.properties,
      (field? fields name).isSome = true)
    (hcongr : ∀ {fields fields'}, (∀ name ∈ kind.properties,
      field? fields name = field? fields' name) → take fields = take fields') :
    kind.LoadedBy Describes fun files path =>
      kind.fields files path >>= fun fields => (take fields).mapError .shape where
  eq_ok_iff files path a := take_eq_ok_iff hok hsome
  reported files path fault h := by
    cases hload : kind.fields files path >>= fun fields => (take fields).mapError .shape with
    | error f =>
      rw [hload] at h
      cases h
      exact ⟨f, rfl, rfl, refuses_of_take hok hload⟩
    | ok a =>
      rw [hload] at h
      cases h
  congr files files' path path' fields fields' hfields hfields' h :=
    take_congr hcongr hfields hfields' h
  unordered files files' path path' fields fields' hfields hfields' hnames hnames' h :=
    take_congr hcongr hfields hfields' fun name hname =>
      Json.field?_eq_of_mem_iff hnames hnames' (h name hname)

end Loaders
end DocumentKind

theorem Vessel.loadedBy : DocumentKind.vessel.LoadedBy DescribedBy load :=
  DocumentKind.loadedBy_of_take (fun _ _ => ofFields_eq_ok_iff) (fun _ _ h _ => h.isSome)
    ofFields_congr

theorem Series.loadedBy : DocumentKind.wave.LoadedBy DescribedBy load :=
  DocumentKind.loadedBy_of_take (fun _ _ => ofFields_eq_ok_iff) (fun _ _ h _ => h.isSome)
    ofFields_congr

theorem Vessel.unfit_of_load {files : FileView} {path : String} {fault : Json.ShapeFault}
    (h : load files path = .error (.shape fault)) :
    ∃ fields, DocumentKind.vessel.Holds files path (.object fields) ∧
      ∃ name ∈ DocumentKind.vessel.properties, FieldIs fields name (·.Unfit fault) := by
  rw [load, bind_eq_error_iff] at h
  obtain h | ⟨fields, hfields, h⟩ := h
  · exact absurd h (DocumentKind.fields_ne_shape fault)
  · obtain ⟨hholds, hpresent⟩ := DocumentKind.fields_eq_ok_iff.1 hfields
    obtain ⟨_, hof, heq⟩ := mapError_eq_error_iff.1 h
    cases heq
    exact ⟨fields, hholds, unfit_of_ofFields hpresent hof⟩

theorem DocumentKind.not_marked_both (path : String) :
    ¬(vessel.Marked path ∧ wave.Marked path) := by
  rintro ⟨hvessel, hwave⟩
  cases eq_of_marks (marks_iff.2 hvessel) (marks_iff.2 hwave)

/-- Vessels and waves are loaded from the documents that describe them, and otherwise refused by the
first check that fails. Where a vessel lacks no property, none is reported as missing: one of them
has the wrong kind of value. No path is that of a vessel and of a wave. -/
theorem documents_load_as_described :
    DocumentKind.vessel.LoadedBy Vessel.DescribedBy Vessel.load ∧
    DocumentKind.wave.LoadedBy Series.DescribedBy Series.load ∧
    (∀ (files : FileView) (path : String) (fault : Json.ShapeFault),
      Vessel.load files path = .error (.shape fault) →
      (∀ name, fault ≠ .missingField name) ∧
      ∃ fields, DocumentKind.vessel.Holds files path (.object fields) ∧
        ∃ name ∈ DocumentKind.vessel.properties, FieldIs fields name (·.Unfit fault)) ∧
    ∀ path, ¬(DocumentKind.vessel.Marked path ∧ DocumentKind.wave.Marked path) := by
  refine ⟨Vessel.loadedBy, Series.loadedBy, fun files path fault h => ?_,
    DocumentKind.not_marked_both⟩
  have hunfit := Vessel.unfit_of_load h
  refine ⟨?_, hunfit⟩
  obtain ⟨fields, -, name, -, j, -, hj⟩ := hunfit
  rintro name rfl
  cases hj

def Json.sameScalar : Json → Json → Bool
  | .whole m, .whole n => m == n
  | .bool a, .bool b => a == b
  | .string s, .string t => s == t
  | _, _ => false

theorem Json.eq_of_sameScalar {j k : Json} (h : j.sameScalar k = true) : j = k := by
  cases j <;> cases k <;> simp_all [sameScalar]

def Json.isObjectOf (fields : List (String × Json)) : Json → Bool
  | .object found => found.isEqv fields fun f g => f.1 == g.1 && f.2.sameScalar g.2
  | _ => false

theorem Json.eq_object_of_isObjectOf {fields : List (String × Json)} {j : Json}
    (h : j.isObjectOf fields = true) : j = .object fields := by
  cases j with
  | object found =>
    rw [isObjectOf] at h
    congr 1
    induction found generalizing fields with
    | nil => cases fields <;> simp_all [List.isEqv]
    | cons f found ih =>
      cases fields with
      | nil => simp [List.isEqv] at h
      | cons g fields =>
        simp only [List.isEqv, Bool.and_eq_true, beq_iff_eq] at h
        obtain ⟨⟨hname, hvalue⟩, hrest⟩ := h
        rw [Prod.ext hname (eq_of_sameScalar hvalue), ih hrest]
  | _ => cases h

theorem Json.read?_eq_object {text : String} {fields : List (String × Json)}
    (h : (read? text).any (isObjectOf fields) = true) : read? text = some (.object fields) := by
  obtain ⟨j, hj, hfields⟩ := (Option.any_eq_true _ _).1 h
  rw [hj, eq_object_of_isObjectOf hfields]

theorem DocumentKind.holds_of_isObjectOf {kind : DocumentKind} {files : FileView}
    {path text : String} {fields : List (String × Json)} (hmarks : kind.marks path = true)
    (htext : files path = .ok text) (h : (Json.read? text).any (Json.isObjectOf fields) = true) :
    kind.Holds files path (.object fields) :=
  ⟨marks_iff.1 hmarks, text, htext, Json.read?_eq_object h⟩

/-- A vessel under sail, two and a half times as long as it is wide. -/
def Vessel.dinghy : Vessel :=
  ⟨Float.ofInt 20, Float.ofInt 8, false, true, Float.ofInt 8⟩

def dinghyFiles : FileView
  | "dinghy.vs.json" =>
    .ok ("\x7b\"length\": 20, \"width\": 8, " ++
      "\"motor\": false, \"berth\": 8, \"sail\": true\x7d")
  | "swift.vs.json" =>
    .ok ("\x7b\"sail\": true, \"name\": \"Swift\", \"motor\": false, " ++
      "\"berth\": 8, \"width\": 8, \"length\": 20\x7d")
  | "incomplete.vs.json" => .ok "\x7b\"length\": 20, \"width\": 8, \"berth\": 8\x7d"
  | "oars.vs.json" =>
    .ok ("\x7b\"length\": 20, \"width\": 8, " ++
      "\"motor\": 0, \"berth\": 8, \"sail\": true\x7d")
  | _ => .error .notFound

/-- A dinghy is the same whichever order its properties have and whatever else its document says.
Without motor and sail there is no vessel, and a motor that is a number is none. -/
theorem dinghies_load_as_described :
    Vessel.load dinghyFiles "dinghy.vs.json" = .ok .dinghy ∧
    Vessel.load dinghyFiles "swift.vs.json" = .ok .dinghy ∧
    (Vessel.load dinghyFiles "incomplete.vs.json").mapError (·.toFault "incomplete.vs.json") =
      .error (.input "incomplete.vs.json" "missing required properties: motor, sail") ∧
    DocumentKind.vessel.Refuses (fun fields => ∃ v, Vessel.DescribedBy fields v) dinghyFiles
      "incomplete.vs.json" (.missing ["motor", "sail"]) ∧
    ∃ fields, DocumentKind.vessel.Holds dinghyFiles "oars.vs.json" (.object fields) ∧
      ∃ name ∈ DocumentKind.vessel.properties,
        FieldIs fields name (·.Unfit (.unwanted (.whole 0) "a boolean")) := by
  obtain ⟨hvessel, -, hunfit, -⟩ := documents_load_as_described
  have hdinghy : DocumentKind.vessel.Holds dinghyFiles "dinghy.vs.json" (.object
      [("length", .whole 20), ("width", .whole 8), ("motor", .bool false), ("berth", .whole 8),
        ("sail", .bool true)]) :=
    DocumentKind.holds_of_isObjectOf (by decide +kernel) rfl (by decide +kernel)
  have hswift : DocumentKind.vessel.Holds dinghyFiles "swift.vs.json" (.object
      [("sail", .bool true), ("name", .string "Swift"), ("motor", .bool false),
        ("berth", .whole 8), ("width", .whole 8), ("length", .whole 20)]) :=
    DocumentKind.holds_of_isObjectOf (by decide +kernel) rfl (by decide +kernel)
  have hincomplete : DocumentKind.vessel.Holds dinghyFiles "incomplete.vs.json" (.object
      [("length", .whole 20), ("width", .whole 8), ("berth", .whole 8)]) :=
    DocumentKind.holds_of_isObjectOf (by decide +kernel) rfl (by decide +kernel)
  have hoars : DocumentKind.vessel.Holds dinghyFiles "oars.vs.json" (.object
      [("length", .whole 20), ("width", .whole 8), ("motor", .whole 0), ("berth", .whole 8),
        ("sail", .bool true)]) :=
    DocumentKind.holds_of_isObjectOf (by decide +kernel) rfl (by decide +kernel)
  have hload : Vessel.load dinghyFiles "dinghy.vs.json" = .ok .dinghy :=
    (hvessel.eq_ok_iff _ _ _).2 ⟨_, hdinghy, ⟨_, rfl, .whole 20⟩, ⟨_, rfl, .whole 8⟩, ⟨_, rfl, rfl⟩,
      ⟨_, rfl, .whole 8⟩, ⟨_, rfl, rfl⟩⟩
  have hmissing : Vessel.load dinghyFiles "incomplete.vs.json" =
      .error (.missing ["motor", "sail"]) := by
    rw [Vessel.load, DocumentKind.fields_of_holds hincomplete]
    rfl
  have hreported : (Vessel.load dinghyFiles "incomplete.vs.json").mapError
      (·.toFault "incomplete.vs.json") =
      .error (.input "incomplete.vs.json" "missing required properties: motor, sail") := by
    rw [hmissing]
    rfl
  have hshape : Vessel.load dinghyFiles "oars.vs.json" =
      .error (.shape (.unwanted (.whole 0) "a boolean")) := by
    rw [Vessel.load, DocumentKind.fields_of_holds hoars]
    rfl
  refine ⟨hload, ?_, ?_, ?_, ?_⟩
  · rw [← hload]
    refine (hvessel.unordered _ _ _ _ _ _ hdinghy hswift (by decide) (by decide) ?_).symm
    simp [DocumentKind.properties]
  · exact hreported
  · obtain ⟨f, hf, -, hrefuses⟩ := hvessel.reported _ _ _ hreported
    rw [hmissing] at hf
    cases hf
    exact hrefuses
  · exact (hunfit _ _ _ hshape).2

end Swell

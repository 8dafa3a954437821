import Swell.Document
import Swell.Proofs.Json.Shape

/-!
# What the fields of a document describe

Main statements: a vessel and a series are taken from fields exactly if these describe them; nothing
counts but the fields that their kind of document asks for, and all of these are needed; and where
none of them is missing, what is wrong with a vessel is the value of one of them.
-/
namespace Swell

open Json (FieldIs field?)

/-- The fields of a vessel have its numbers and its truth values. -/
structure Vessel.DescribedBy (fields : List (String × Json)) (v : Vessel) : Prop where
  length : FieldIs fields "length" (·.IsNumber v.length)
  width : FieldIs fields "width" (·.IsNumber v.width)
  motor : FieldIs fields "motor" (· = .bool v.motor)
  berth : FieldIs fields "berth" (·.IsNumber v.berth)
  sail : FieldIs fields "sail" (· = .bool v.sail)

/-- A value that is a series: an object with both lists, or an array of the two. -/
inductive Series.WrittenAs : Json → Series Float → Prop where
  | object {fields : List (String × Json)} {w : Series Float}
    (x : FieldIs fields "x" (·.IsNumbers w.x)) (y : FieldIs fields "y" (·.IsNumbers w.y)) :
    WrittenAs (.object fields) w
  | array {x y : Json} {w : Series Float} (hx : x.IsNumbers w.x) (hy : y.IsNumbers w.y) :
    WrittenAs (.array [x, y]) w

def Series.DescribedBy (fields : List (String × Json)) (w : Series Float) : Prop :=
  FieldIs fields "series" (Series.WrittenAs · w)

theorem Vessel.ofFields_eq_ok_iff {fields : List (String × Json)} {v : Vessel} :
    ofFields fields = .ok v ↔ v.DescribedBy fields := by
  simp only [ofFields, bind_eq_ok_iff, Json.required_eq_ok_iff, Json.asNumber_eq_ok_iff,
    Json.asBool_eq_ok_iff]
  constructor
  · rintro ⟨berth, hberth, length, hlength, motor, hmotor, sail, hsail, width, hwidth, h⟩
    cases h
    exact ⟨hlength, hwidth, hmotor, hberth, hsail⟩
  · rintro ⟨hlength, hwidth, hmotor, hberth, hsail⟩
    exact ⟨_, hberth, _, hlength, _, hmotor, _, hsail, _, hwidth, rfl⟩

theorem Series.ofJson_object_eq_ok_iff {fields : List (String × Json)} {w : Series Float} :
    ofJson (.object fields) = .ok w ↔
      FieldIs fields "x" (·.IsNumbers w.x) ∧ FieldIs fields "y" (·.IsNumbers w.y) := by
  simp only [← Json.asNumbers_eq_ok_iff, ← Json.optional_eq_ok_some_iff]
  simp only [ofJson, bind_eq_ok_iff, Json.present_eq_ok_iff]
  constructor
  · rintro ⟨_, hx, _, hy, x, rfl, y, rfl, h⟩
    cases h
    exact ⟨hx, hy⟩
  · rintro ⟨hx, hy⟩
    exact ⟨_, hx, _, hy, _, rfl, _, rfl, rfl⟩

theorem Series.ofJson_array_eq_ok_iff {items : List Json} {w : Series Float} :
    ofJson (.array items) = .ok w ↔ ∃ x y, items = [x, y] ∧ x.IsNumbers w.x ∧ y.IsNumbers w.y := by
  simp only [← Json.asNumbers_eq_ok_iff]
  match items with
  | [] => simp [ofJson]
  | [x] =>
    simp only [ofJson, bind_eq_ok_iff]
    simp
  | [x, y] =>
    simp only [ofJson, bind_eq_ok_iff, List.isEmpty_nil, if_true]
    constructor
    · rintro ⟨xs, hx, ys, hy, h⟩
      cases h
      exact ⟨x, y, rfl, hx, hy⟩
    · rintro ⟨_, _, h, hx, hy⟩
      cases h
      exact ⟨_, hx, _, hy, rfl⟩
  | x :: y :: z :: rest =>
    simp only [ofJson, bind_eq_ok_iff]
    simp

theorem Series.ofJson_eq_ok_iff {j : Json} {w : Series Float} :
    ofJson j = .ok w ↔ WrittenAs j w := by
  constructor
  · intro h
    cases j with
    | object fields =>
      obtain ⟨hx, hy⟩ := ofJson_object_eq_ok_iff.1 h
      exact .object hx hy
    | array items =>
      obtain ⟨x, y, rfl, hx, hy⟩ := ofJson_array_eq_ok_iff.1 h
      exact .array hx hy
    | _ => cases h
  · rintro (⟨hx, hy⟩ | ⟨hx, hy⟩)
    · exact ofJson_object_eq_ok_iff.2 ⟨hx, hy⟩
    · exact ofJson_array_eq_ok_iff.2 ⟨_, _, rfl, hx, hy⟩

theorem Series.ofFields_eq_ok_iff {fields : List (String × Json)} {w : Series Float} :
    ofFields fields = .ok w ↔ DescribedBy fields w := by
  simp only [ofFields, Json.required_eq_ok_iff, ofJson_eq_ok_iff, DescribedBy]

theorem Vessel.DescribedBy.isSome {fields : List (String × Json)} {v : Vessel}
    (h : v.DescribedBy fields) {name : String} (hname : name ∈ DocumentKind.vessel.properties) :
    (field? fields name).isSome = true := by
  simp only [DocumentKind.properties, List.mem_cons, List.not_mem_nil, or_false] at hname
  obtain rfl | rfl | rfl | rfl | rfl := hname
  · exact h.length.isSome
  · exact h.width.isSome
  · exact h.motor.isSome
  · exact h.berth.isSome
  · exact h.sail.isSome

theorem Series.DescribedBy.isSome {fields : List (String × Json)} {w : Series Float}
    (h : w.DescribedBy fields) {name : String} (hname : name ∈ DocumentKind.wave.properties) :
    (field? fields name).isSome = true := by
  obtain rfl := List.mem_singleton.1 hname
  exact FieldIs.isSome h

theorem Vessel.ofFields_congr {fields fields' : List (String × Json)}
    (h : ∀ name ∈ DocumentKind.vessel.properties, field? fields name = field? fields' name) :
    ofFields fields = ofFields fields' := by
  simp only [DocumentKind.properties, List.forall_mem_cons] at h
  obtain ⟨hlength, hwidth, hmotor, hberth, hsail, -⟩ := h
  rw [ofFields, ofFields, Json.required_congr hlength, Json.required_congr hwidth,
    Json.required_congr hmotor, Json.required_congr hberth, Json.required_congr hsail]

theorem Series.ofFields_congr {fields fields' : List (String × Json)}
    (h : ∀ name ∈ DocumentKind.wave.properties, field? fields name = field? fields' name) :
    ofFields fields = ofFields fields' :=
  Json.required_congr (h "series" (List.mem_singleton.2 rfl))

/-- What is reported of a value that should be a number or a truth value, and is none. -/
inductive Json.Unfit (j : Json) : Json.ShapeFault → Prop where
  | number (h : ∀ x, ¬j.IsNumber x) : Unfit j (.unwanted j "f64")
  | truth (h : ∀ b, j ≠ .bool b) : Unfit j (.unwanted j "a boolean")

theorem Json.unfit_of_asNumber {j : Json} {fault : Json.ShapeFault}
    (h : j.asNumber = .error fault) : j.Unfit fault := by
  rw [asNumber_eq_error h]
  refine .number fun x hx => ?_
  rw [asNumber_eq_ok_iff.2 hx] at h
  cases h

theorem Json.unfit_of_asBool {j : Json} {fault : Json.ShapeFault} (h : j.asBool = .error fault) :
    j.Unfit fault := by
  rw [asBool_eq_error h]
  refine .truth fun b hb => ?_
  rw [(asBool_eq_ok_iff j b).2 hb] at h
  cases h

theorem Json.unfit_of_required {α : Type} {take : Json → Except Json.ShapeFault α}
    {fields : List (String × Json)} {name : String} {fault : Json.ShapeFault}
    (htake : ∀ {j : Json}, take j = .error fault → j.Unfit fault)
    (hpresent : (field? fields name).isSome = true)
    (h : required take fields name = .error fault) : FieldIs fields name (·.Unfit fault) := by
  obtain ⟨j, hj, hfault⟩ := (required_eq_error_iff hpresent).1 h
  exact ⟨j, hj, htake hfault⟩

/-- Where no property is missing, what is wrong with a vessel is the value of one of them. -/
theorem Vessel.unfit_of_ofFields {fields : List (String × Json)} {fault : Json.ShapeFault}
    (hpresent : ∀ name ∈ DocumentKind.vessel.properties, (field? fields name).isSome = true)
    (h : ofFields fields = .error fault) :
    ∃ name ∈ DocumentKind.vessel.properties, FieldIs fields name (·.Unfit fault) := by
  have hnumber : ∀ name ∈ DocumentKind.vessel.properties,
      Json.required Json.asNumber fields name = .error fault →
        FieldIs fields name (·.Unfit fault) :=
    fun name hname => Json.unfit_of_required Json.unfit_of_asNumber (hpresent name hname)
  have htruth : ∀ name ∈ DocumentKind.vessel.properties,
      Json.required Json.asBool fields name = .error fault → FieldIs fields name (·.Unfit fault) :=
    fun name hname => Json.unfit_of_required Json.unfit_of_asBool (hpresent name hname)
  simp only [ofFields, bind_eq_error_iff] at h
  obtain hf | ⟨_, -, hf | ⟨_, -, hf | ⟨_, -, hf | ⟨_, -, hf | ⟨_, -, hf⟩⟩⟩⟩⟩ := h
  · exact ⟨"berth", by decide, hnumber "berth" (by decide) hf⟩
  · exact ⟨"length", by decide, hnumber "length" (by decide) hf⟩
  · exact ⟨"motor", by decide, htruth "motor" (by decide) hf⟩
  · exact ⟨"sail", by decide, htruth "sail" (by decide) hf⟩
  · exact ⟨"width", by decide, hnumber "width" (by decide) hf⟩
  · cases hf

end Swell

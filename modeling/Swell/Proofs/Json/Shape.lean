import Mathlib.Data.List.Nodup
import Swell.Json.Shape
import Swell.Proofs.Result

/-!
# What values of a shape say

Main statements: a value is taken as a number, a truth value or numbers exactly if it is one, and
as the one it is; a field that must be there is taken exactly if it is there and has the shape; and
fields can be looked up in any order, as long as no two of them have one name.
-/
namespace Swell.Json

/-- A value that is a number, whole or not. -/
inductive IsNumber : Json → Float → Prop where
  | whole (n : Int) : IsNumber (.whole n) (Float.ofInt n)
  | float (x : Float) : IsNumber (.float x) x

/-- A value that is a list of numbers. -/
inductive IsNumbers : Json → List Float → Prop where
  | array {items : List Json} {xs : List Float} (h : List.Forall₂ IsNumber items xs) :
    IsNumbers (.array items) xs

theorem asNumber_eq_ok_iff {j : Json} {x : Float} : j.asNumber = .ok x ↔ j.IsNumber x := by
  constructor
  · intro h
    cases j <;> cases h
    · exact .whole _
    · exact .float _
  · rintro (_ | _) <;> rfl

theorem asNumber_eq_error {j : Json} {fault : ShapeFault} (h : j.asNumber = .error fault) :
    fault = .unwanted j "f64" := by
  cases j <;> cases h <;> rfl

theorem asBool_eq_error {j : Json} {fault : ShapeFault} (h : j.asBool = .error fault) :
    fault = .unwanted j "a boolean" := by
  cases j <;> cases h <;> rfl

theorem mapM_eq_ok_iff_forall₂ {ε α β : Type} {f : α → Except ε β} {l : List α} {bs : List β} :
    l.mapM f = .ok bs ↔ List.Forall₂ (fun a b => f a = .ok b) l bs := by
  induction l generalizing bs with
  | nil =>
    rw [List.forall₂_nil_left_iff, List.mapM_nil]
    exact ⟨fun h => (Except.ok.inj h).symm, fun h => congrArg Except.ok h.symm⟩
  | cons a l ih =>
    simp only [List.mapM_cons, bind_eq_ok_iff, ih, List.forall₂_cons_left_iff]
    constructor
    · rintro ⟨b, hb, bs, hbs, h⟩
      exact ⟨b, bs, hb, hbs, (Except.ok.inj h).symm⟩
    · rintro ⟨b, bs, hb, hbs, rfl⟩
      exact ⟨b, hb, bs, hbs, rfl⟩

theorem asNumbers_eq_ok_iff {j : Json} {xs : List Float} :
    j.asNumbers = .ok xs ↔ j.IsNumbers xs := by
  have hitems (items : List Json) : items.mapM asNumber = .ok xs ↔
      List.Forall₂ IsNumber items xs := by
    simp only [mapM_eq_ok_iff_forall₂, asNumber_eq_ok_iff]
  constructor
  · intro h
    cases j with
    | array items => exact .array ((hitems items).1 h)
    | _ => cases h
  · rintro ⟨h⟩
    exact (hitems _).2 h

/-- The fields have one of this name, with a value of this kind. -/
def FieldIs (fields : List (String × Json)) (name : String) (Is : Json → Prop) : Prop :=
  ∃ j, field? fields name = some j ∧ Is j

theorem FieldIs.isSome {fields : List (String × Json)} {name : String} {Is : Json → Prop}
    (h : FieldIs fields name Is) : (field? fields name).isSome = true := by
  obtain ⟨j, hj, -⟩ := h
  exact Option.isSome_of_eq_some hj

variable {α : Type} {take : Json → Except ShapeFault α} {fields : List (String × Json)}
  {name : String}

theorem present_eq_ok_iff {a? : Option α} {a : α} : present name a? = .ok a ↔ a? = some a := by
  cases a? <;> simp [present]

theorem optional_eq_ok_some_iff {a : α} :
    optional take fields name = .ok (some a) ↔ FieldIs fields name fun j => take j = .ok a := by
  rw [optional, FieldIs]
  cases field? fields name with
  | none => simp
  | some j => cases h : take j <;> simp [h, Except.map]

theorem required_of_none (h : field? fields name = none) :
    required take fields name = .error (.missingField name) := by
  rw [required, optional, h]
  rfl

theorem required_of_some {j : Json} (h : field? fields name = some j) :
    required take fields name = take j := by
  simp only [required, optional, h]
  cases take j <;> rfl

theorem required_eq_ok_iff {a : α} :
    required take fields name = .ok a ↔ FieldIs fields name fun j => take j = .ok a := by
  rw [FieldIs]
  cases h : field? fields name with
  | none => simp [required_of_none h]
  | some j => simp [required_of_some h]

/-- What is wrong with a field that is there is its value. -/
theorem required_eq_error_iff (hfield : (field? fields name).isSome = true) {fault : ShapeFault} :
    required take fields name = .error fault ↔
      FieldIs fields name fun j => take j = .error fault := by
  obtain ⟨j, hj⟩ := Option.isSome_iff_exists.1 hfield
  simp [required_of_some hj, FieldIs, hj]

theorem required_congr {fields' : List (String × Json)}
    (h : field? fields name = field? fields' name) :
    required take fields name = required take fields' name := by
  rw [required, required, optional, optional, h]

/-- Where no two fields have one name, it does not matter in which order they stand. -/
theorem field?_eq_some_iff_mem (hnames : (fields.map Prod.fst).Nodup) {j : Json} :
    field? fields name = some j ↔ (name, j) ∈ fields := by
  rw [field?, Option.map_eq_some_iff]
  constructor
  · rintro ⟨f, hf, rfl⟩
    have hname : f.1 = name := by simpa using List.find?_some hf
    simpa [← hname] using List.mem_of_find?_eq_some hf
  · intro hj
    have hsome : (fields.reverse.find? fun f => f.1 == name).isSome = true :=
      List.find?_isSome.2 ⟨(name, j), by simpa using hj, by simp⟩
    obtain ⟨f, hf⟩ := Option.isSome_iff_exists.1 hsome
    have hname : f.1 = name := by simpa using List.find?_some hf
    have hmem : f ∈ fields := by simpa using List.mem_of_find?_eq_some hf
    have heq : f = (name, j) := List.inj_on_of_nodup_map hnames hmem hj hname
    exact ⟨f, hf, by rw [heq]⟩

theorem field?_eq_of_mem_iff {fields' : List (String × Json)}
    (hnames : (fields.map Prod.fst).Nodup) (hnames' : (fields'.map Prod.fst).Nodup)
    (h : ∀ j, (name, j) ∈ fields ↔ (name, j) ∈ fields') :
    field? fields name = field? fields' name := by
  refine Option.ext fun j => ?_
  rw [field?_eq_some_iff_mem hnames, field?_eq_some_iff_mem hnames', h]

end Swell.Json

import Swell.Proofs.Recogniser.Choice
import Swell.Proofs.Recogniser.Single

/-!
# Recognisers inside recognisers of their own kind

Main statements: a sequence among the items of a sequence reads like its items in its place, and a
repetition like as many copies of its unit; a choice with items among the items of a choice reads
like its items in its place, up to the list that a mismatch gives of what was expected.
-/
namespace Swell

/-- The results agree up to what a mismatch says was expected: the first list in the first result,
and the second list in the second one. -/
inductive ReadAlike (expected expected' : List Descriptor) :
    Except ParseFault History → Except ParseFault History → Prop where
  | read (out : History) : ReadAlike expected expected' (.ok out) (.ok out)
  | structural (fault : StructuralFault) :
    ReadAlike expected expected' (.error (.structural fault)) (.error (.structural fault))
  | mismatch (position : Nat) (actual : Atom) :
    ReadAlike expected expected' (.error (.mismatch position expected actual))
      (.error (.mismatch position expected' actual))

theorem ReadAlike.eq_ok_iff {expected expected' : List Descriptor}
    {a b : Except ParseFault History} (hab : ReadAlike expected expected' a b) (out : History) :
    a = .ok out ↔ b = .ok out := by
  cases hab with
  | read _ => rfl
  | structural _ => simp
  | mismatch _ _ => simp

theorem History.exhausted_iff (h : History) : h.Exhausted ↔ h.advance? = none := by
  rw [Exhausted, isEmpty_iff, advance?]
  cases h.last? with
  | none => simp
  | some s => simp [s.advance?_eq_none_iff]

theorem History.readAlike_refusal (h : History) (expected expected' : List Descriptor) :
    ReadAlike expected expected' (.error (h.refusal expected)) (.error (h.refusal expected')) := by
  cases hn : h.advance? with
  | none =>
    obtain ⟨fault, hfault⟩ := exists_refusal_eq_structural hn
    rw [hfault, hfault]
    exact .structural fault
  | some next =>
    obtain ⟨s, atom, rest, hs, hrest, -⟩ := exists_remaining_of_advance? hn
    rw [refusal_eq_mismatch hs hrest, refusal_eq_mismatch hs hrest]
    exact .mismatch s.position atom

namespace Recogniser

theorem parseAll_append (rs ts : List Recogniser) (h : History) :
    parseAll (rs ++ ts) h = parseAll rs h >>= parseAll ts := by
  induction rs generalizing h with
  | nil => rfl
  | cons r rs ih =>
    rw [List.cons_append, parseAll_cons, parseAll_cons]
    cases r.parse h with
    | error fault => rfl
    | ok next => exact ih next

theorem parseAll_singleton (r : Recogniser) (h : History) : parseAll [r] h = r.parse h := by
  rw [parseAll_cons]
  cases r.parse h <;> rfl

/-- A repetition reads like as many copies of its unit in a row. -/
theorem stepTimes_eq_parseAll (unit : Recogniser) (n : Nat) (h : History) :
    stepTimes unit.parse n h = parseAll (List.replicate n unit) h := by
  induction n generalizing h with
  | zero => rfl
  | succ n ih => rw [stepTimes_succ, List.replicate_succ, parseAll_cons, funext ih]

theorem parse_repeated (n : Nat) (unit : Recogniser) (h : History) :
    (repeated n unit).parse h = (sequence (List.replicate n unit)).parse h := by
  rw [parse, parse, ← stepTimes_eq_parseAll]

theorem parse_repeated_add (m n : Nat) (unit : Recogniser) (h : History) :
    (repeated (m + n) unit).parse h =
      (sequence [repeated m unit, repeated n unit]).parse h := by
  have hsecond : (repeated n unit).parse = stepTimes unit.parse n := by
    funext g
    rw [parse]
  rw [parse, parse, parseAll_cons, parse, funext (parseAll_singleton (repeated n unit)), hsecond]
  exact stepTimes_add unit.parse m n h

theorem parse_sequence_nested (before items behind : List Recogniser) (h : History) :
    (sequence (before ++ [sequence items] ++ behind)).parse h =
      (sequence (before ++ items ++ behind)).parse h := by
  have hinner : parseAll [sequence items] = parseAll items := by
    funext g
    rw [parseAll_singleton, parse]
  rw [parse, parse, parseAll_append, parseAll_append, parseAll_append, parseAll_append, hinner]

theorem parse_choice (items : List Recogniser) (h : History) :
    (choice items).parse h =
      (parseFirst items h).getD (.error (h.refusal (items.map descriptor))) := by
  rw [parse, descriptors_eq_map]
  cases parseFirst items h <;> rfl

theorem parseFirst_append (rs ts : List Recogniser) (h : History) :
    parseFirst (rs ++ ts) h = (parseFirst rs h).or (parseFirst ts h) := by
  induction rs with
  | nil => rfl
  | cons r rs ih =>
    by_cases hr : r.PassedOver h
    · rw [List.cons_append, parseFirst_cons_of_passedOver hr, parseFirst_cons_of_passedOver hr, ih]
    · rw [List.cons_append, parseFirst_cons_of_not_passedOver hr,
        parseFirst_cons_of_not_passedOver hr, Option.some_or]

theorem parseFirst_ne_mismatch (rs : List Recogniser) (h : History) (position : Nat)
    (expected : List Descriptor) (actual : Atom) :
    parseFirst rs h ≠ some (.error (.mismatch position expected actual)) := by
  intro e
  obtain ⟨_, r, _, -, -, hr, hmismatch⟩ := (parseFirst_eq_some_iff rs h _).1 e
  exact hr ⟨position, expected, actual, hmismatch⟩

/-- What mismatches has an atom in front of it, so that a choice there mismatches as well. -/
theorem PassedOver.refusal {r : Recogniser} {h : History} (hr : r.PassedOver h)
    (expected : List Descriptor) :
    ∃ position actual, h.refusal expected = .mismatch position expected actual := by
  obtain ⟨position, shown, actual, e⟩ := hr
  cases hn : h.advance? with
  | none => exact absurd e (r.not_mismatch_of_exhausted (h.exhausted_iff.2 hn) _ _ _)
  | some next =>
    obtain ⟨s, atom, rest, hs, hrest, -⟩ := History.exists_remaining_of_advance? hn
    exact ⟨s.position, atom, History.refusal_eq_mismatch hs hrest expected⟩

/-- A choice among the items of a choice is like its own items there. It has to have items: without
them it fails where no atom is left, and the items behind it are not asked. -/
theorem parseFirst_choice {items : List Recogniser} (hitems : items ≠ []) (h : History) :
    parseFirst [choice items] h = parseFirst items h := by
  have hparse := parse_choice items h
  cases hfirst : parseFirst items h with
  | some result =>
    rw [hfirst, Option.getD_some] at hparse
    rw [parseFirst_cons_of_not_passedOver, hparse]
    rintro ⟨position, expected, actual, e⟩
    rw [hparse] at e
    exact parseFirst_ne_mismatch items h position expected actual (by rw [hfirst, e])
  | none =>
    rw [hfirst, Option.getD_none] at hparse
    obtain ⟨r, rs, rfl⟩ := List.exists_cons_of_ne_nil hitems
    have hr : r.PassedOver h := by
      refine Classical.byContradiction fun hr => ?_
      rw [parseFirst_cons_of_not_passedOver hr] at hfirst
      cases hfirst
    obtain ⟨position, actual, hrefusal⟩ := hr.refusal ((r :: rs).map descriptor)
    rw [hrefusal] at hparse
    rw [parseFirst_cons_of_passedOver ⟨position, _, actual, hparse⟩, parseFirst]

theorem readAlike_choice {items items' : List Recogniser} {h : History}
    (hfirst : parseFirst items h = parseFirst items' h) :
    ReadAlike (items.map descriptor) (items'.map descriptor) ((choice items).parse h)
      ((choice items').parse h) := by
  rw [parse_choice, parse_choice, ← hfirst]
  match e : parseFirst items h with
  | some (.ok out) => exact .read out
  | some (.error (.structural fault)) => exact .structural fault
  | some (.error (.mismatch position expected actual)) =>
    exact absurd e (parseFirst_ne_mismatch items h position expected actual)
  | none => exact h.readAlike_refusal _ _

end Recogniser

open Recogniser in
/-- A sequence inside a sequence, a sum of repetitions and a repetition itself can be written out. A
choice inside a choice can be written out as well, provided that it has items; a mismatch then lists
these items in place of the inner choice. -/
theorem nested_recognisers_read_like_flat_ones (before items behind : List Recogniser)
    (unit : Recogniser) (m n : Nat) (h : History) :
    (sequence (before ++ [sequence items] ++ behind)).parse h =
      (sequence (before ++ items ++ behind)).parse h ∧
    (repeated (m + n) unit).parse h = (sequence [repeated m unit, repeated n unit]).parse h ∧
    (repeated n unit).parse h = (sequence (List.replicate n unit)).parse h ∧
    (repeated n unit).descriptor = (sequence (List.replicate n unit)).descriptor ∧
    (items ≠ [] → ReadAlike
      (before.map descriptor ++ [.oneOf (items.map descriptor)] ++ behind.map descriptor)
      (before.map descriptor ++ items.map descriptor ++ behind.map descriptor)
      ((choice (before ++ [choice items] ++ behind)).parse h)
      ((choice (before ++ items ++ behind)).parse h)) := by
  refine ⟨parse_sequence_nested before items behind h, parse_repeated_add m n unit h,
    parse_repeated n unit h, ?_, fun hitems => ?_⟩
  · rw [descriptor, descriptor, descriptors_eq_map, List.map_replicate]
  · have hfirst : parseFirst (before ++ [choice items] ++ behind) h =
        parseFirst (before ++ items ++ behind) h := by
      simp only [parseFirst_append, parseFirst_choice hitems]
    have halike := readAlike_choice hfirst
    rw [List.map_append, List.map_append, List.map_append, List.map_append, List.map_singleton,
      descriptor, descriptors_eq_map] at halike
    exact halike

/-- At the end of the atoms a choice without items fails, so that writing it out makes a
difference. -/
example :
    (Recogniser.choice [.choice [], .sequence []]).parse (.ofAtoms []) =
        .error (.structural .nothingRemaining) ∧
      (Recogniser.choice [.sequence []]).parse (.ofAtoms []) = .ok (.ofAtoms []) :=
  ⟨rfl, rfl⟩

def flatWord : Recogniser :=
  .token ⟨⟨"[F]", .one (.single 'F')⟩, .pattern "[F]"⟩

def blankWord : Recogniser :=
  .token ⟨⟨"[\\s]", .one (.property .blank)⟩, .pattern "[\\s]"⟩

/-- A trough is refused with the same words expected, whether these stand in a choice of their own
or not; only the list of them differs. -/
theorem words_are_written_out :
    [flatWord, blankWord] ≠ [] ∧
      (Recogniser.choice ([.choice [flatWord, blankWord]] ++ [.repeated 2 flatWord])).parse
          (.ofAtoms ["T"]) =
        .error (.mismatch 0 [.oneOf [.pattern "[F]", .pattern "[\\s]"],
          .sequence [.pattern "[F]", .pattern "[F]"]] "T") ∧
      (Recogniser.choice ([flatWord, blankWord] ++ [.repeated 2 flatWord])).parse
          (.ofAtoms ["T"]) =
        .error (.mismatch 0 [.pattern "[F]", .pattern "[\\s]",
          .sequence [.pattern "[F]", .pattern "[F]"]] "T") := by
  have hitems : [flatWord, blankWord] ≠ [] := List.cons_ne_nil _ _
  obtain ⟨-, -, -, -, halike⟩ := nested_recognisers_read_like_flat_ones []
    [flatWord, blankWord] [.repeated 2 flatWord] flatWord 1 1 (.ofAtoms ["T"])
  refine ⟨hitems, rfl, ?_⟩
  have hflat := halike hitems
  generalize hresult : (Recogniser.choice ([] ++ [flatWord, blankWord] ++
    [.repeated 2 flatWord])).parse (.ofAtoms ["T"]) = result at hflat
  cases hflat with
  | mismatch position actual => exact hresult

end Swell

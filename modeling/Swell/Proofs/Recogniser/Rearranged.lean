import Swell.Proofs.Recogniser.Invocations
import Swell.Proofs.Recogniser.Nesting

/-!
# The same tokens in another arrangement

A recogniser of single atoms takes what one of its tokens accepts, so the order of the tokens, how
often they occur and how deep does not matter. Main statements: recognisers in which the same tokens
occur read alike, from every history and in every reading of a sentence; and choices with the same
items, in whatever order and number, are such recognisers.
-/
namespace Swell

namespace History

variable (admits : Atom → Bool) (expected expected' : List Descriptor)

theorem readAlike_takeIf (h : History) :
    ReadAlike expected expected' (h.takeIf admits expected) (h.takeIf admits expected') := by
  unfold takeIf
  cases h.advance? with
  | none => exact h.readAlike_refusal expected expected'
  | some next =>
    by_cases ha : next.taken.any admits = true
    · simp only [ha, if_true]
      exact .read _
    · simp only [ha]
      exact h.readAlike_refusal expected expected'

/-- Only the next atom is taken. -/
theorem eq_push_of_takeIf_eq_ok {h out : History} (e : h.takeIf admits expected = .ok out) :
    ∃ s s', h.last? = some s ∧ s.advance? = some s' ∧ out = h.push s' := by
  unfold takeIf at e
  cases hn : h.advance? with
  | none => simp [hn] at e
  | some next =>
    obtain ⟨s, hs, hadvance⟩ := Option.bind_eq_some_iff.1 hn
    refine ⟨s, next, hs, hadvance, ?_⟩
    by_cases ha : next.taken.any admits = true
    · simpa [hn, ha] using e.symm
    · simp [hn, ha] at e

end History

namespace Recogniser

/-- The same tokens occur in both recognisers, at any depth. -/
def SameTokens (r r' : Recogniser) : Prop :=
  ∀ t, (token t).Occurs r ↔ (token t).Occurs r'

variable {r r' : Recogniser} (hr : r.isSingle = true) (hr' : r'.isSingle = true)
  (hsame : r.SameTokens r')
include hr hr' hsame

theorem SameTokens.admits_eq : r.admits = r'.admits := by
  funext atom
  rw [Bool.eq_iff_iff, admits_iff_matches r hr, admits_iff_matches r' hr']
  unfold Matches
  simp only [hsame _]

/-- Recognisers with the same tokens differ in what they say was expected, and in nothing else. -/
theorem readAlike_of_sameTokens (h : History) :
    ReadAlike r.expected r'.expected (r.parse h) (r'.parse h) := by
  rw [parse_of_isSingle r hr, parse_of_isSingle r' hr', hsame.admits_eq hr hr']
  exact h.readAlike_takeIf r'.admits r.expected r'.expected

/-- This holds of whole readings as well, which end at the same atom if they fail. -/
theorem readAlike_drive (s : Sentence) :
    ReadAlike r.expected r'.expected (drive r s) (drive r' s) := by
  have hadmits := hsame.admits_eq hr hr'
  by_cases hw : s.words = []
  · rw [drive_eq_error_of_no_words r hw, drive_eq_error_of_no_words r' hw]
    exact .structural .emptySentence
  · rcases forall_mem_or_exists_first (fun atom => r.admits atom = true) s.atoms with
      hall | ⟨j, atom, hatom, hrefused, hbefore⟩
    · rw [drive_eq_ok hr hw hall, drive_eq_ok hr' hw (by rwa [← hadmits])]
      exact .read _
    · rw [drive_eq_error hr hatom (Bool.eq_false_iff.2 hrefused) hbefore,
        drive_eq_error hr' hatom (by rw [← hadmits, Bool.eq_false_iff.2 hrefused])
          (by rwa [← hadmits])]
      exact .mismatch j atom

end Recogniser

namespace Recogniser

theorem areSingle_iff (rs : List Recogniser) :
    areSingle rs = true ↔ ∀ r ∈ rs, r.isSingle = true := by
  induction rs with
  | nil => simp [areSingle]
  | cons r rs ih => rw [areSingle, Bool.and_eq_true, ih, List.forall_mem_cons]

theorem isSingle_choice_iff (items : List Recogniser) :
    (choice items).isSingle = true ↔ ∀ r ∈ items, r.isSingle = true := by
  rw [isSingle, areSingle_iff]

theorem token_occurs_choice_iff (t : Token) (items : List Recogniser) :
    (token t).Occurs (choice items) ↔ ∃ r ∈ items, (token t).Occurs r := by
  constructor
  · rintro (_ | _ | ⟨hr, ht⟩)
    exact ⟨_, hr, ht⟩
  · rintro ⟨r, hr, ht⟩
    exact .choice hr ht

theorem sameTokens_choice {items items' : List Recogniser} (hmem : ∀ r, r ∈ items' ↔ r ∈ items) :
    (choice items).SameTokens (choice items') := by
  intro t
  simp only [token_occurs_choice_iff, hmem]

theorem expected_choice (items : List Recogniser) :
    (choice items).expected = items.map descriptor := by
  rw [expected, descriptors_eq_map]

end Recogniser
end Swell

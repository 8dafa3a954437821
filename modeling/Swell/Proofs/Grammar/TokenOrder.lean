import Swell.Proofs.Grammar.Verdict
import Swell.Proofs.Recogniser.Rearranged
import Swell.Proofs.Sentence.Symbols

/-!
# The order of a grammar's tokens

Main statements: no atom is accepted by two tokens of a generated grammar; and the order in which
recognisers of single atoms are tried has no influence on a reading, but only on the order in which
a mismatch lists what was expected.
-/
namespace Swell

namespace Token

/-- No atom is accepted by both tokens. -/
def Apart (t u : Token) : Prop :=
  ∀ atom, ¬(t.pattern.accepts atom = true ∧ u.pattern.accepts atom = true)

variable {c d : Char} {j k : Nat}

theorem marked_apart_marked (hj : j < 10) (hk : k < 10) (hne : ¬(c = d ∧ j = k)) :
    (marked c j).Apart (marked d k) := by
  rintro atom ⟨hone, htwo⟩
  rw [marked_accepts_iff c hj] at hone
  rw [marked_accepts_iff d hk, hone, marked_word_inj] at htwo
  exact hne htwo

theorem marked_apart_blank (hc : Text.isBlank c = false) (hj : j < 10) :
    (marked c j).Apart blank := by
  rintro atom ⟨hone, htwo⟩
  rw [marked_accepts_iff c hj] at hone
  rw [hone] at htwo
  exact blank_refuses_word (Text.isWord_marked c hc j) htwo

theorem flat_accepts_iff (atom : Atom) : flat.pattern.accepts atom = true ↔ atom = "F" :=
  Pattern.bracketed_accepts_iff 'F' atom

theorem marked_apart_flat (hc : c ≠ 'F') (hj : j < 10) : (marked c j).Apart flat := by
  rintro atom ⟨hone, htwo⟩
  rw [marked_accepts_iff c hj] at hone
  rw [flat_accepts_iff, hone, ← String.toList_inj, String.toList_append,
    String.toList_singleton] at htwo
  exact hc (List.cons.inj htwo).1

theorem blank_apart_flat : blank.Apart flat := by
  rintro atom ⟨hone, htwo⟩
  rw [flat_accepts_iff] at htwo
  rw [htwo] at hone
  exact absurd hone (by decide)

end Token

namespace GrammarRules

variable {r : GrammarRules} (hr : r.levels ≤ levelLimit)
include hr

theorem pairwise_apart_marked (marker : Char) (limit : Float) :
    ((r.keptLevels limit).map (Token.marked marker)).Pairwise Token.Apart := by
  rw [List.pairwise_map]
  refine (r.keptLevels_ascending limit).imp_of_mem fun {j k} hj hk hlt => ?_
  exact Token.marked_apart_marked (lt_ten_of_mem_keptLevels hr hj) (lt_ten_of_mem_keptLevels hr hk)
    fun heq => Nat.ne_of_lt hlt heq.2

/-- No atom is accepted by two tokens of the grammar. -/
theorem pairwise_apart_tokenList (l : Limits) : (r.tokenList l).Pairwise Token.Apart := by
  rw [tokenList, List.pairwise_append, List.pairwise_append]
  refine ⟨⟨pairwise_apart_marked hr 'P' l.peak, pairwise_apart_marked hr 'T' l.trough, ?_⟩,
    ?_, ?_⟩
  · -- peaks and troughs have different markers
    intro t ht u hu
    obtain ⟨j, hj, rfl⟩ := List.mem_map.1 ht
    obtain ⟨k, hk, rfl⟩ := List.mem_map.1 hu
    exact Token.marked_apart_marked (lt_ten_of_mem_keptLevels hr hj)
      (lt_ten_of_mem_keptLevels hr hk) fun heq => absurd heq.1 (by decide)
  · simpa using Token.blank_apart_flat
  · intro t ht u hu
    have hmarked : ∃ c k, (c = 'P' ∨ c = 'T') ∧ k < 10 ∧ t = .marked c k := by
      rcases List.mem_append.1 ht with ht | ht
      · obtain ⟨k, hk, rfl⟩ := List.mem_map.1 ht
        exact ⟨'P', k, .inl rfl, lt_ten_of_mem_keptLevels hr hk, rfl⟩
      · obtain ⟨k, hk, rfl⟩ := List.mem_map.1 ht
        exact ⟨'T', k, .inr rfl, lt_ten_of_mem_keptLevels hr hk, rfl⟩
    obtain ⟨c, k, hc, hk, rfl⟩ := hmarked
    rcases List.mem_pair.1 hu with rfl | rfl
    · exact Token.marked_apart_blank (by rcases hc with rfl | rfl <;> decide) hk
    · exact Token.marked_apart_flat (by rcases hc with rfl | rfl <;> decide) hk

end GrammarRules

open Recogniser in
/-- Choices between recognisers of single atoms that have the same items, in any order and number,
read alike: either both take the next atom and nothing else, or both fail, at the same place and
with the same atom, and list as expected what they try in the order in which they try it. The same
holds for whole readings with recognisers of single atoms in which the same tokens occur, at any
depth. In particular the tokens of a generated grammar may be tried in any order; no atom is
accepted by two of them. -/
theorem order_of_tokens_changes_no_reading :
    (∀ items items' : List Recogniser, (∀ r ∈ items, r.isSingle = true) →
      (∀ r, r ∈ items' ↔ r ∈ items) → ∀ h,
        ReadAlike (items.map descriptor) (items'.map descriptor) ((choice items).parse h)
          ((choice items').parse h) ∧
        ∀ out, (choice items).parse h = .ok out →
          ∃ s s', h.last? = some s ∧ s.advance? = some s' ∧ out = h.push s') ∧
    (∀ r r' : Recogniser, r.isSingle = true → r'.isSingle = true → r.SameTokens r' →
      ∀ s, ReadAlike r.expected r'.expected (drive r s) (drive r' s)) ∧
    ∀ (c : Collection) (r : GrammarRules) (l : Limits), r.levels ≤ 9 →
      ∃ g tokens, Grammar.generate c r l = .ok g ∧ g.any = .choice (tokens.map .token) ∧
        tokens.Pairwise (fun t u =>
          ∀ atom, ¬(t.pattern.accepts atom = true ∧ u.pattern.accepts atom = true)) ∧
        ∀ tokens' : List Token, tokens'.Perm tokens → ∀ s history,
          drive (.choice (tokens'.map .token)) s = .ok history ↔ drive g.any s = .ok history := by
  refine ⟨fun items items' hsingle hmem h => ?_, fun r r' hr hr' hsame s =>
    readAlike_drive hr hr' hsame s, fun c r l hr => ?_⟩
  · have hone := (isSingle_choice_iff items).2 hsingle
    have htwo := (isSingle_choice_iff items').2 fun r hr => hsingle r ((hmem r).1 hr)
    have halike := readAlike_of_sameTokens hone htwo (sameTokens_choice hmem) h
    rw [expected_choice, expected_choice] at halike
    refine ⟨halike, fun out e => ?_⟩
    rw [parse_of_isSingle _ hone] at e
    exact History.eq_push_of_takeIf_eq_ok _ _ e
  · refine ⟨.generated c r l, r.tokenList l, Grammar.generate_eq_ok c l hr, rfl,
      GrammarRules.pairwise_apart_tokenList hr l, fun tokens' hperm s history => ?_⟩
    have hmem : ∀ p, p ∈ (r.tokenList l).map Recogniser.token ↔ p ∈ tokens'.map .token :=
      fun p => (hperm.map _).mem_iff.symm
    have halike := readAlike_drive (isSingle_choice_token tokens')
      (isSingle_choice_token (r.tokenList l)) (sameTokens_choice hmem) s
    exact halike.eq_ok_iff history

/-- A trough in front of flat words and separators, which are tried in another order, one of them
twice; and the tokens of a grammar with three levels, tried backwards. -/
theorem words_read_alike_in_another_order :
    (∀ r ∈ [flatWord, blankWord], r.isSingle = true) ∧
    (∀ r, r ∈ [blankWord, flatWord, blankWord] ↔ r ∈ [flatWord, blankWord]) ∧
    (Recogniser.choice [blankWord, flatWord, blankWord]).parse (.ofAtoms ["T"]) =
      .error (.mismatch 0 [.pattern "[\\s]", .pattern "[F]", .pattern "[\\s]"] "T") ∧
    (3 : Nat) ≤ 9 ∧ ∃ (g : Grammar) (tokens : List Token),
      Grammar.generate .beta ⟨3, .vessel, .strict, [3.5, 7.5, 15.0]⟩ ⟨8.0, 4.0, .unlimited⟩ =
        .ok g ∧
      g.any = .choice (tokens.map .token) ∧ ∀ s history,
        Recogniser.drive (.choice (tokens.reverse.map .token)) s = .ok history ↔
          Recogniser.drive g.any s = .ok history := by
  have hsingle : ∀ r ∈ [flatWord, blankWord], r.isSingle = true := by
    intro r hr
    rcases List.mem_pair.1 hr with rfl | rfl <;> rfl
  have hmem : ∀ r, r ∈ [blankWord, flatWord, blankWord] ↔ r ∈ [flatWord, blankWord] := by
    intro r
    simp only [List.mem_cons, List.not_mem_nil, or_false]
    constructor
    · rintro (hr | hr | hr)
      · exact .inr hr
      · exact .inl hr
      · exact .inr hr
    · rintro (hr | hr)
      · exact .inr (.inl hr)
      · exact .inl hr
  obtain ⟨halike, -⟩ := order_of_tokens_changes_no_reading.1 _ _ hsingle hmem (.ofAtoms ["T"])
  have hlevels : (3 : Nat) ≤ 9 := by decide
  obtain ⟨g, tokens, hg, hany, -, horder⟩ := order_of_tokens_changes_no_reading.2.2 .beta
    ⟨3, .vessel, .strict, [3.5, 7.5, 15.0]⟩ ⟨8.0, 4.0, .unlimited⟩ hlevels
  refine ⟨hsingle, hmem, ?_, hlevels, g, tokens, hg, hany, horder tokens.reverse
    tokens.reverse_perm⟩
  generalize hresult : (Recogniser.choice [blankWord, flatWord, blankWord]).parse
    (.ofAtoms ["T"]) = result at halike
  cases halike with
  | mismatch position actual => exact hresult

end Swell

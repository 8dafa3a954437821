import Mathlib.Data.List.TakeWhile
import Swell.Pattern.Reader

/-!
# Pattern expressions with a closing behind them

A pattern expression reads alike whether the text ends behind it or a closing parenthesis stands
there. Only a comment at its end swallows the closing, and whether there is one depends on the
expression alone; so a text is compared with two others, in which different things stand behind
the same closing. Main statements: numbers and escapes that are read from the text alone are read
from both others too, and what they leave is continued alike.
-/
namespace Swell.Pattern
open Swell.Text

/-- What stands behind the closing parenthesis of two texts. -/
structure Behind where
  first : List Char
  second : List Char
  /-- A comment does not end in it. -/
  no_line_end : '\n' ∉ first ∧ '\n' ∉ second
  /-- No name of a class ends in it. -/
  no_colon : ':' ∉ first ∧ ':' ∉ second

/-- A text, and the same with a closing parenthesis and more behind it, in two ways. The closing may
also be lost in a comment, but then in both. -/
inductive Continued (behind : Behind) : List Char → List Char → List Char → Prop
  | swallowed : Continued behind [] [] []
  | closed : Continued behind [] (')' :: behind.first) (')' :: behind.second)
  | cons (c : Char) {cs cs₁ cs₂ : List Char} :
    Continued behind cs cs₁ cs₂ → Continued behind (c :: cs) (c :: cs₁) (c :: cs₂)

/-- The same was read from the three texts, and what is left is continued. -/
def ReadAlike {α : Type} (behind : Behind) (a a₁ a₂ : α × List Char) : Prop :=
  a.1 = a₁.1 ∧ a.1 = a₂.1 ∧ Continued behind a.2 a₁.2 a₂.2

def BothAlike {α β : Type} (behind : Behind) (a a₁ a₂ : α × β × List Char) : Prop :=
  a.1 = a₁.1 ∧ a.1 = a₂.1 ∧ ReadAlike behind a.2 a₁.2 a₂.2

/-- What the first reader gives, the others give too, up to a relation. -/
def Carries {α : Type} (R : α → α → α → Prop) (r r₁ r₂ : Option α) : Prop :=
  ∀ a, r = some a → ∃ a₁ a₂, r₁ = some a₁ ∧ r₂ = some a₂ ∧ R a a₁ a₂

/-- All three readers give something, or none does. -/
inductive Together {α : Type} (R : α → α → α → Prop) : Option α → Option α → Option α → Prop
  | none : Together R none none none
  | some {a a₁ a₂ : α} : R a a₁ a₂ → Together R (some a) (some a₁) (some a₂)

namespace Carries

variable {α γ : Type} {R : α → α → α → Prop} {S : γ → γ → γ → Prop} {r r₁ r₂ : Option α}

theorem none : Carries R Option.none r₁ r₂ :=
  fun _ h => nomatch h

theorem some {a a₁ a₂ : α} (h : R a a₁ a₂) :
    Carries R (Option.some a) (Option.some a₁) (Option.some a₂) := by
  intro b hb
  cases hb
  exact ⟨a₁, a₂, rfl, rfl, h⟩

theorem read {behind : Behind} {rest rest₁ rest₂ : List Char} (a : α)
    (h : Continued behind rest rest₁ rest₂) :
    Carries (ReadAlike behind) (Option.some (a, rest)) (Option.some (a, rest₁))
      (Option.some (a, rest₂)) :=
  .some ⟨rfl, rfl, h⟩

theorem bind (h : Carries R r r₁ r₂) {f f₁ f₂ : α → Option γ}
    (hf : ∀ a a₁ a₂, R a a₁ a₂ → Carries S (f a) (f₁ a₁) (f₂ a₂)) :
    Carries S (r >>= f) (r₁ >>= f₁) (r₂ >>= f₂) := by
  intro c hc
  obtain ⟨a, ha, hc⟩ := Option.bind_eq_some_iff.1 hc
  obtain ⟨a₁, a₂, ha₁, ha₂, haa⟩ := h a ha
  obtain ⟨c₁, c₂, hc₁, hc₂, hcc⟩ := hf a a₁ a₂ haa c hc
  exact ⟨c₁, c₂, Option.bind_eq_some_iff.2 ⟨a₁, ha₁, hc₁⟩,
    Option.bind_eq_some_iff.2 ⟨a₂, ha₂, hc₂⟩, hcc⟩

/-- What is done with a value that does not depend on what stands behind. -/
theorem bind_const (o : Option α) {f f₁ f₂ : α → Option γ}
    (hf : ∀ a, Carries S (f a) (f₁ a) (f₂ a)) : Carries S (o >>= f) (o >>= f₁) (o >>= f₂) := by
  cases o with
  | none => exact .none
  | some a => exact hf a

theorem map (h : Carries R r r₁ r₂) {f f₁ f₂ : α → γ}
    (hf : ∀ a a₁ a₂, R a a₁ a₂ → S (f a) (f₁ a₁) (f₂ a₂)) :
    Carries S (r.map f) (r₁.map f₁) (r₂.map f₂) := by
  intro c hc
  obtain ⟨a, ha, rfl⟩ := Option.map_eq_some_iff.1 hc
  obtain ⟨a₁, a₂, rfl, rfl, haa⟩ := h a ha
  exact ⟨f₁ a₁, f₂ a₂, rfl, rfl, hf a a₁ a₂ haa⟩

theorem map_const (o : Option α) {f f₁ f₂ : α → γ} (hf : ∀ a, S (f a) (f₁ a) (f₂ a)) :
    Carries S (o.map f) (o.map f₁) (o.map f₂) := by
  cases o with
  | none => exact .none
  | some a => exact .some (hf a)

/-- What is done with the result of a reader and what it left. -/
theorem bind_read {behind : Behind} {r r₁ r₂ : Option (α × List Char)}
    (h : Carries (ReadAlike behind) r r₁ r₂) {f f₁ f₂ : α × List Char → Option γ}
    (hf : ∀ a rest rest₁ rest₂, Continued behind rest rest₁ rest₂ →
      Carries S (f (a, rest)) (f₁ (a, rest₁)) (f₂ (a, rest₂))) :
    Carries S (r >>= f) (r₁ >>= f₁) (r₂ >>= f₂) := by
  refine h.bind ?_
  rintro ⟨a, rest⟩ ⟨_, rest₁⟩ ⟨_, rest₂⟩ ⟨rfl, rfl, hrest⟩
  exact hf a rest rest₁ rest₂ hrest

end Carries

theorem skipVerbose_of_comment {cs : List Char} (hcs : '\n' ∉ cs) : skipVerbose true cs = [] := by
  induction cs with
  | nil => rfl
  | cons c cs ih =>
    rw [List.mem_cons, not_or] at hcs
    rw [skipVerbose, if_pos rfl, bne_iff_ne.2 (Ne.symm hcs.1)]
    exact ih hcs.2

theorem length_skipVerbose_le (inComment : Bool) (cs : List Char) :
    (skipVerbose inComment cs).length ≤ cs.length := by
  induction cs generalizing inComment with
  | nil => exact Nat.le_refl _
  | cons c cs ih =>
    rw [skipVerbose]
    split
    · exact Nat.le_succ_of_le (ih _)
    · split
      · exact Nat.le_succ_of_le (ih _)
      · split
        · exact Nat.le_succ_of_le (ih _)
        · exact Nat.le_refl _

theorem length_skip_le (flags : Flags) (cs : List Char) : (skip flags cs).length ≤ cs.length := by
  rw [skip]
  split
  · exact length_skipVerbose_le false cs
  · exact Nat.le_refl _

namespace Continued

variable {behind : Behind} {cs cs₁ cs₂ : List Char}

theorem length_le (h : Continued behind cs cs₁ cs₂) :
    cs.length ≤ cs₁.length ∧ cs.length ≤ cs₂.length := by
  induction h with
  | swallowed => exact ⟨Nat.le_refl _, Nat.le_refl _⟩
  | closed => exact ⟨Nat.zero_le _, Nat.zero_le _⟩
  | cons c _ ih => exact ⟨Nat.succ_le_succ ih.1, Nat.succ_le_succ ih.2⟩

theorem append (behind : Behind) (cs : List Char) :
    Continued behind cs (cs ++ ')' :: behind.first) (cs ++ ')' :: behind.second) := by
  induction cs with
  | nil => exact .closed
  | cons c cs ih => exact .cons c ih

theorem dropWhile {p : Char → Bool} (hp : p ')' = false) (h : Continued behind cs cs₁ cs₂) :
    Continued behind (cs.dropWhile p) (cs₁.dropWhile p) (cs₂.dropWhile p) := by
  induction h with
  | swallowed => exact .swallowed
  | closed =>
    have hclosing : ¬p ')' = true := by simp [hp]
    rw [List.dropWhile_cons_of_neg hclosing, List.dropWhile_cons_of_neg hclosing]
    exact .closed
  | cons c h ih =>
    rw [List.dropWhile_cons, List.dropWhile_cons, List.dropWhile_cons]
    split
    · exact ih
    · exact .cons c h

/-- Where the closing and all that stands behind it go with the front, nothing is left of it. -/
theorem dropWhile_of_forall {p : Char → Bool} (hfirst : ∀ c ∈ ')' :: behind.first, p c = true)
    (hsecond : ∀ c ∈ ')' :: behind.second, p c = true) (h : Continued behind cs cs₁ cs₂) :
    Continued behind (cs.dropWhile p) (cs₁.dropWhile p) (cs₂.dropWhile p) := by
  induction h with
  | swallowed => exact .swallowed
  | closed =>
    rw [List.dropWhile_eq_nil_iff.2 hfirst, List.dropWhile_eq_nil_iff.2 hsecond]
    exact .swallowed
  | cons c h ih =>
    rw [List.dropWhile_cons, List.dropWhile_cons, List.dropWhile_cons]
    split
    · exact ih
    · exact .cons c h

theorem takeWhile_eq {p : Char → Bool} (h : Continued behind cs cs₁ cs₂)
    (hcs : cs.dropWhile p ≠ []) :
    cs.takeWhile p = cs₁.takeWhile p ∧ cs.takeWhile p = cs₂.takeWhile p := by
  induction h with
  | swallowed => exact absurd rfl hcs
  | closed => exact absurd rfl hcs
  | cons c h ih =>
    rw [List.dropWhile_cons] at hcs
    rw [List.takeWhile_cons, List.takeWhile_cons, List.takeWhile_cons]
    split
    · next hc =>
      obtain ⟨hfirst, hsecond⟩ := ih (by simpa [hc] using hcs)
      exact ⟨congrArg (c :: ·) hfirst, congrArg (c :: ·) hsecond⟩
    · exact ⟨rfl, rfl⟩

theorem skipVerbose (inComment : Bool) (h : Continued behind cs cs₁ cs₂) :
    Continued behind (skipVerbose inComment cs) (skipVerbose inComment cs₁)
      (skipVerbose inComment cs₂) := by
  induction h generalizing inComment with
  | swallowed => exact .swallowed
  | closed =>
    cases inComment with
    | false => exact .closed
    | true =>
      have hfirst : '\n' ∉ ')' :: behind.first := by simp [behind.no_line_end.1]
      have hsecond : '\n' ∉ ')' :: behind.second := by simp [behind.no_line_end.2]
      rw [skipVerbose_of_comment hfirst, skipVerbose_of_comment hsecond]
      exact .swallowed
  | cons c h ih =>
    rw [Pattern.skipVerbose, Pattern.skipVerbose, Pattern.skipVerbose]
    split
    · exact ih _
    · split
      · exact ih _
      · split
        · exact ih _
        · exact .cons c h

theorem skip (flags : Flags) (h : Continued behind cs cs₁ cs₂) :
    Continued behind (skip flags cs) (skip flags cs₁) (skip flags cs₂) := by
  rw [Pattern.skip, Pattern.skip, Pattern.skip]
  split
  · exact h.skipVerbose false
  · exact h

end Continued

theorem exists_succ_of_le {n m : Nat} (h : n + 1 ≤ m) : ∃ k, m = k + 1 ∧ n ≤ k := by
  cases m with
  | zero => exact absurd h (Nat.not_succ_le_zero n)
  | succ k => exact ⟨k, rfl, Nat.le_of_succ_le_succ h⟩

/-- The longest run of characters with a property, of which a reader takes one after the other. -/
def readRun (flags : Flags) (p : Char → Bool) :
    Nat → List Char → List Char × List Char
  | 0, cs => ([], cs)
  | _ + 1, [] => ([], [])
  | fuel + 1, c :: cs =>
    if p c then
      let (run, rest) := readRun flags p fuel (skip flags cs)
      (c :: run, rest)
    else ([], c :: cs)

section

variable {behind : Behind} {cs cs₁ cs₂ : List Char} (flags : Flags)

theorem readRun_nil (p : Char → Bool) (fuel : Nat) : readRun flags p fuel [] = ([], []) := by
  cases fuel with
  | zero => rfl
  | succ fuel => rfl

theorem readRun_cons_of_not {p : Char → Bool} {c : Char} (hc : p c = false) (fuel : Nat)
    (cs : List Char) : readRun flags p fuel (c :: cs) = ([], c :: cs) := by
  cases fuel with
  | zero => rfl
  | succ fuel => rw [readRun, if_neg (by simp [hc])]

/-- No closing belongs to a run. -/
theorem readAlike_readRun {p : Char → Bool} (hp : p ')' = false)
    (h : Continued behind cs cs₁ cs₂) {fuel fuel₁ fuel₂ : Nat} (hfuel : cs.length ≤ fuel)
    (hfuel₁ : cs₁.length ≤ fuel₁) (hfuel₂ : cs₂.length ≤ fuel₂) :
    ReadAlike behind (readRun flags p fuel cs) (readRun flags p fuel₁ cs₁)
      (readRun flags p fuel₂ cs₂) := by
  induction fuel generalizing fuel₁ fuel₂ cs cs₁ cs₂ with
  | zero =>
    obtain rfl := List.length_eq_zero_iff.1 (Nat.le_zero.1 hfuel)
    cases h with
    | swallowed =>
      rw [readRun_nil, readRun_nil, readRun_nil]
      exact ⟨rfl, rfl, .swallowed⟩
    | closed =>
      rw [readRun_nil, readRun_cons_of_not flags hp, readRun_cons_of_not flags hp]
      exact ⟨rfl, rfl, .closed⟩
  | succ fuel ih =>
    cases h with
    | swallowed =>
      rw [readRun_nil, readRun_nil, readRun_nil]
      exact ⟨rfl, rfl, .swallowed⟩
    | closed =>
      rw [readRun_nil, readRun_cons_of_not flags hp, readRun_cons_of_not flags hp]
      exact ⟨rfl, rfl, .closed⟩
    | @cons c cs cs₁ cs₂ h =>
      obtain ⟨fuel₁, rfl, hle₁⟩ := exists_succ_of_le hfuel₁
      obtain ⟨fuel₂, rfl, hle₂⟩ := exists_succ_of_le hfuel₂
      rw [readRun, readRun, readRun]
      split
      · obtain ⟨hfirst, hsecond, hrest⟩ := ih (h.skip flags)
          (Nat.le_trans (length_skip_le _ _) (Nat.le_of_succ_le_succ hfuel))
          (Nat.le_trans (length_skip_le _ _) hle₁) (Nat.le_trans (length_skip_le _ _) hle₂)
        exact ⟨congrArg (c :: ·) hfirst, congrArg (c :: ·) hsecond, hrest⟩
      · exact ⟨rfl, rfl, .cons c h⟩

theorem readDigits_eq_readRun (fuel : Nat) (digits : List Nat) (cs : List Char) :
    readDigits flags fuel digits cs =
      (((readRun flags Char.isDigit fuel cs).1.map digitValue).reverse ++ digits,
        (readRun flags Char.isDigit fuel cs).2) := by
  induction fuel generalizing digits cs with
  | zero => rfl
  | succ fuel ih =>
    cases cs with
    | nil => rfl
    | cons c cs =>
      rw [readDigits, readRun]
      split
      · rw [ih]
        simp
      · rfl

theorem readEdgeName_eq_readRun (fuel : Nat) (name cs : List Char) :
    readEdgeName flags fuel name cs =
      (name.reverse ++ (readRun flags isEdgeNameSign fuel cs).1,
        (readRun flags isEdgeNameSign fuel cs).2) := by
  induction fuel generalizing name cs with
  | zero => simp [readEdgeName, readRun]
  | succ fuel ih =>
    cases cs with
    | nil => simp [readEdgeName, readRun]
    | cons c cs =>
      rw [readEdgeName, readRun]
      split
      · rw [ih]
        simp
      · simp

theorem readHyphens_eq_readRun (fuel : Nat) (parts : List ClassPart) (cs : List Char) :
    readHyphens flags fuel parts cs =
      (((readRun flags (· == '-') fuel cs).1.map fun _ => ⟨.single '-', 0⟩).reverse ++ parts,
        (readRun flags (· == '-') fuel cs).2) := by
  induction fuel generalizing parts cs with
  | zero => rfl
  | succ fuel ih =>
    cases cs with
    | nil => rfl
    | cons c cs =>
      by_cases hc : c = '-'
      · subst hc
        rw [readHyphens, readRun, ih]
        simp
      · rw [readRun, if_neg (by simpa using hc)]
        unfold readHyphens
        simp only [List.cons.injEq, hc, false_and, imp_self, implies_true]
        rfl

theorem readNumber?_carries (h : Continued behind cs cs₁ cs₂) :
    Carries (ReadAlike behind) (readNumber? flags cs) (readNumber? flags cs₁)
      (readNumber? flags cs₂) := by
  obtain ⟨hfirst, hsecond, hrest⟩ := readAlike_readRun flags (p := Char.isDigit) (by decide)
    (h.dropWhile (p := isBlank) (by decide)) (Nat.le_refl _) (Nat.le_refl _) (Nat.le_refl _)
  simp only [readNumber?, readDigits_eq_readRun, ← hfirst, ← hsecond]
  split
  · exact .none
  · exact .read _ ((hrest.dropWhile (by decide)).skip flags)

theorem readHexDigits?_carries (h : Continued behind cs cs₁ cs₂) (n : Nat) (digits : List Nat) :
    Carries (ReadAlike behind) (readHexDigits? flags n digits cs)
      (readHexDigits? flags n digits cs₁) (readHexDigits? flags n digits cs₂) := by
  induction n generalizing digits cs cs₁ cs₂ with
  | zero => exact .read _ h
  | succ n ih =>
    cases h with
    | swallowed => exact .none
    | closed => exact .none
    | cons c h =>
      rw [readHexDigits?, readHexDigits?, readHexDigits?]
      cases hexValue? c with
      | none => exact .none
      | some d => exact ih (h.skip flags) (d :: digits)

private theorem readHexBraced?_cons (fuel : Nat) (digits : List Nat) (c : Char) (cs : List Char) :
    readHexBraced? flags (fuel + 1) digits (c :: cs) =
      if c = '\x7d' then some (digits, skip flags cs)
      else (hexValue? c).bind fun d => readHexBraced? flags fuel (d :: digits) (skip flags cs) := by
  split
  · next hc => rw [hc, readHexBraced?]
  · next hc => rw [readHexBraced?]; exact hc

theorem readHexBraced?_carries (h : Continued behind cs cs₁ cs₂) {fuel fuel₁ fuel₂ : Nat}
    (hfuel₁ : fuel ≤ fuel₁) (hfuel₂ : fuel ≤ fuel₂) (digits : List Nat) :
    Carries (ReadAlike behind) (readHexBraced? flags fuel digits cs)
      (readHexBraced? flags fuel₁ digits cs₁) (readHexBraced? flags fuel₂ digits cs₂) := by
  induction fuel generalizing fuel₁ fuel₂ digits cs cs₁ cs₂ with
  | zero => exact .none
  | succ fuel ih =>
    obtain ⟨fuel₁, rfl, hle₁⟩ := exists_succ_of_le hfuel₁
    obtain ⟨fuel₂, rfl, hle₂⟩ := exists_succ_of_le hfuel₂
    cases h with
    | swallowed => exact .none
    | closed => exact .none
    | cons c h =>
      rw [readHexBraced?_cons, readHexBraced?_cons, readHexBraced?_cons]
      split
      · exact .read _ (h.skip flags)
      · cases hexValue? c with
        | none => exact .none
        | some d => exact ih (h.skip flags) hle₁ hle₂ (d :: digits)

private def readFixedHex? (flags : Flags) (width : Nat) (cs : List Char) :
    Option (Sign × List Char) := do
  let (digits, rest) ← readHexDigits? flags width [] cs
  (charOf? (valueOf 16 digits.reverse)).map fun c => (.char c (width == 2), rest)

private theorem readFixedHex?_carries (h : Continued behind cs cs₁ cs₂) (width : Nat) :
    Carries (ReadAlike behind) (readFixedHex? flags width cs) (readFixedHex? flags width cs₁)
      (readFixedHex? flags width cs₂) := by
  refine (readHexDigits?_carries flags h width []).bind_read ?_
  intro digits rest rest₁ rest₂ hrest
  exact .map_const _ fun c => ⟨rfl, rfl, hrest⟩

theorem readHex?_carries (h : Continued behind cs cs₁ cs₂) (width : Nat) :
    Carries (ReadAlike behind) (readHex? flags width cs) (readHex? flags width cs₁)
      (readHex? flags width cs₂) := by
  have hskip := h.skip flags
  rw [readHex?, readHex?, readHex?]
  generalize skip flags cs = ds at hskip ⊢
  generalize skip flags cs₁ = ds₁ at hskip ⊢
  generalize skip flags cs₂ = ds₂ at hskip ⊢
  cases hskip with
  | swallowed => exact readFixedHex?_carries flags .swallowed width
  | closed => exact readFixedHex?_carries flags .closed width
  | @cons c ds ds₁ ds₂ hds =>
    by_cases hc : c = '\x7b'
    · subst hc
      refine (readHexBraced?_carries flags (hds.skip flags) (Nat.succ_le_succ hds.length_le.1)
        (Nat.succ_le_succ hds.length_le.2) []).bind_read ?_
      intro digits rest rest₁ rest₂ hrest
      simp only
      split
      · exact .none
      · exact .map_const _ fun c => ⟨rfl, rfl, hrest⟩
    · simp only [List.cons.injEq, hc, false_and, imp_self, implies_true]
      exact readFixedHex?_carries flags (.cons c hds) width

private theorem readBraced?_cons (fuel : Nat) (name : List Char) (c : Char) (cs : List Char) :
    readBraced? flags (fuel + 1) name (c :: cs) =
      if c = '\x7d' then some (name.reverse, cs)
      else readBraced? flags fuel (c :: name) (skip flags cs) := by
  split
  · next hc => rw [hc, readBraced?]
  · next hc => rw [readBraced?]; exact hc

theorem readBraced?_carries (h : Continued behind cs cs₁ cs₂) {fuel fuel₁ fuel₂ : Nat}
    (hfuel₁ : fuel ≤ fuel₁) (hfuel₂ : fuel ≤ fuel₂) (name : List Char) :
    Carries (ReadAlike behind) (readBraced? flags fuel name cs)
      (readBraced? flags fuel₁ name cs₁) (readBraced? flags fuel₂ name cs₂) := by
  induction fuel generalizing fuel₁ fuel₂ name cs cs₁ cs₂ with
  | zero => exact .none
  | succ fuel ih =>
    obtain ⟨fuel₁, rfl, hle₁⟩ := exists_succ_of_le hfuel₁
    obtain ⟨fuel₂, rfl, hle₂⟩ := exists_succ_of_le hfuel₂
    cases h with
    | swallowed => exact .none
    | closed => exact .none
    | cons c h =>
      rw [readBraced?_cons, readBraced?_cons, readBraced?_cons]
      split
      · exact .read _ h
      · exact ih (h.skip flags) hle₁ hle₂ (c :: name)

private def classOfName? (flags : Flags) (negated : Bool) (name rest : List Char) :
    Option (Sign × List Char) := do
  let (property, otherwise) := propertyOf name
  if flags.unicode then
    let members ← flags.complemented? (negated != otherwise) (flags.folded (.property property))
    some (.oneOf members, rest)
  else none

private theorem classOfName?_carries (negated : Bool) (name : List Char)
    (h : Continued behind cs cs₁ cs₂) :
    Carries (ReadAlike behind) (classOfName? flags negated name cs)
      (classOfName? flags negated name cs₁) (classOfName? flags negated name cs₂) := by
  simp only [classOfName?]
  split
  · exact .bind_const _ fun members => .read _ h
  · exact .none

theorem readProperty?_carries (h : Continued behind cs cs₁ cs₂) (negated : Bool) :
    Carries (ReadAlike behind) (readProperty? flags negated cs) (readProperty? flags negated cs₁)
      (readProperty? flags negated cs₂) := by
  have hclass := fun name rest rest₁ rest₂ (hrest : Continued behind rest rest₁ rest₂) =>
    classOfName?_carries flags negated name hrest
  have hskip := h.skip flags
  rw [readProperty?, readProperty?, readProperty?]
  generalize skip flags cs = ds at hskip ⊢
  generalize skip flags cs₁ = ds₁ at hskip ⊢
  generalize skip flags cs₂ = ds₂ at hskip ⊢
  cases hskip with
  | swallowed => exact .none
  | closed => exact .none
  | @cons c ds ds₁ ds₂ hds =>
    have hrest := hds.skip flags
    by_cases hescape : c = '\\'
    · subst hescape
      exact .none
    by_cases hbrace : c = '\x7b'
    · subst hbrace
      exact (readBraced?_carries flags hrest (Nat.succ_le_succ hds.length_le.1)
        (Nat.succ_le_succ hds.length_le.2) []).bind_read hclass
    · simp only
      exact (Carries.read [c] hrest).bind_read hclass

theorem readPerl?_carries (h : Continued behind cs cs₁ cs₂) (negated : Bool)
    (everywhere ascii : CharClass) :
    Carries (ReadAlike behind) (readPerl? flags negated everywhere ascii cs)
      (readPerl? flags negated everywhere ascii cs₁)
      (readPerl? flags negated everywhere ascii cs₂) :=
  .map_const _ fun _ => ⟨rfl, rfl, h⟩

private def edgeOf? (ascii : Bool) : List Char × List Char → Option (Sign × List Char)
  | (name, '\x7d' :: rest) =>
    match String.ofList name with
    | "start" => some (.look (.wordStart ascii), rest)
    | "end" => some (.look (.wordEnd ascii), rest)
    | "start-half" => some (.look (.wordStartHalf ascii), rest)
    | "end-half" => some (.look (.wordEndHalf ascii), rest)
    | _ => none
  | _ => none

private theorem edgeOf?_carries (ascii : Bool) {a a₁ a₂ : List Char × List Char}
    (h : ReadAlike behind a a₁ a₂) :
    Carries (ReadAlike behind) (edgeOf? ascii a) (edgeOf? ascii a₁) (edgeOf? ascii a₂) := by
  obtain ⟨name, rest⟩ := a
  obtain ⟨_, rest₁⟩ := a₁
  obtain ⟨_, rest₂⟩ := a₂
  obtain ⟨rfl, rfl, hrest⟩ := h
  change Continued behind rest rest₁ rest₂ at hrest
  cases hrest with
  | swallowed => exact .none
  | closed => exact .none
  | @cons c rest rest₁ rest₂ hrest =>
    by_cases hc : c = '\x7d'
    · subst hc
      simp only [edgeOf?]
      split
      all_goals first | exact .read _ hrest | exact .none
    · unfold edgeOf?
      split
      · next heq => cases heq; exact absurd rfl hc
      · exact .none

theorem readEdge?_carries (h : Continued behind cs cs₁ cs₂) :
    Carries (ReadAlike behind) (readEdge? flags cs) (readEdge? flags cs₁)
      (readEdge? flags cs₂) := by
  cases h with
  | swallowed => exact .read _ .swallowed
  | closed => exact .read _ .closed
  | @cons c cs cs₁ cs₂ h =>
    by_cases hc : c = '\x7b'
    · subst hc
      have hskip := h.skip flags
      unfold readEdge?
      simp only
      generalize skip flags cs = ds at hskip ⊢
      generalize skip flags cs₁ = ds₁ at hskip ⊢
      generalize skip flags cs₂ = ds₂ at hskip ⊢
      cases hskip with
      | swallowed => exact .none
      | closed => exact .none
      | @cons c ds ds₁ ds₂ hskip =>
        simp only
        split
        · refine edgeOf?_carries (!flags.unicode) ?_
          rw [readEdgeName_eq_readRun, readEdgeName_eq_readRun, readEdgeName_eq_readRun]
          obtain ⟨hfirst, hsecond, hrest⟩ := readAlike_readRun flags (p := isEdgeNameSign)
            (by decide) (.cons c hskip) (Nat.le_refl (ds.length + 1)) (Nat.le_refl (ds₁.length + 1))
            (Nat.le_refl (ds₂.length + 1))
          exact ⟨congrArg ([].reverse ++ ·) hfirst, congrArg ([].reverse ++ ·) hsecond, hrest⟩
        · exact .read _ (.cons _ h)
    · have hplain : ∀ ds, readEdge? flags (c :: ds) =
          some (.look (.wordEdge !flags.unicode), c :: ds) := by
        intro ds
        unfold readEdge?
        simp only [List.cons.injEq, hc, false_and, imp_self, implies_true]
      rw [hplain, hplain, hplain]
      exact .read _ (.cons c h)

theorem readEscape?_carries (h : Continued behind cs cs₁ cs₂) :
    Carries (ReadAlike behind) (readEscape? flags cs) (readEscape? flags cs₁)
      (readEscape? flags cs₂) := by
  cases h with
  | swallowed => exact .none
  | closed => exact .none
  | @cons c cs cs₁ cs₂ h =>
    have hhex := readHex?_carries flags h
    have hproperty := readProperty?_carries flags h
    have hperl := readPerl?_carries flags h
    have hsign := fun sign : Sign => Carries.read sign h
    unfold readEscape?
    simp only
    split
    case h_20 => exact readEdge?_carries flags h
    case h_24 =>
      split
      · exact hsign _
      · exact .none
    all_goals first | exact hhex _ | exact hproperty _ | exact hperl _ _ _ | exact hsign _

end
end Swell.Pattern

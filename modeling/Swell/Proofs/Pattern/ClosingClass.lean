import Swell.Proofs.Pattern.Closing

/-!
# Classes in front of a closing

Main statement: a class in brackets that is read from a text is read from it with a closing behind
it too, and what it leaves is continued.
-/
namespace Swell.Pattern
open Swell.Text

variable {behind : Behind} {cs cs₁ cs₂ : List Char} (flags : Flags)

theorem readClassSign?_carries (h : Continued behind cs cs₁ cs₂) :
    Carries (ReadAlike behind) (readClassSign? flags cs) (readClassSign? flags cs₁)
      (readClassSign? flags cs₂) := by
  cases h with
  | swallowed => exact .none
  | closed => exact .none
  | @cons c cs cs₁ cs₂ h =>
    by_cases hc : c = '\\'
    · subst hc
      exact readEscape?_carries flags h
    · simp only [readClassSign?.eq_3 _ _ _ hc]
      exact .read _ h

/-- A sign of a class that no interval begins with. -/
private def signAlone? (flags : Flags) (sign : Sign) (rest : List Char) :
    Option (CharClass × List Char) :=
  match sign with
  | .oneOf members => some (members, skip flags rest)
  | sign => (memberOf? flags sign).map fun c => (.single c, skip flags rest)

private theorem signAlone?_carries (sign : Sign) (h : Continued behind cs cs₁ cs₂) :
    Carries (ReadAlike behind) (signAlone? flags sign cs) (signAlone? flags sign cs₁)
      (signAlone? flags sign cs₂) := by
  have hskip := h.skip flags
  cases sign with
  | oneOf members => exact .read _ hskip
  | char c byte => exact .map_const _ fun c => ⟨rfl, rfl, hskip⟩
  | look condition => exact .none

theorem readClassItem?_carries (h : Continued behind cs cs₁ cs₂) :
    Carries (ReadAlike behind) (readClassItem? flags cs) (readClassItem? flags cs₁)
      (readClassItem? flags cs₂) := by
  unfold readClassItem?
  refine (readClassSign?_carries flags h).bind_read ?_
  intro sign rest rest₁ rest₂ hrest
  have hskip := hrest.skip flags
  have halone := signAlone?_carries flags sign hrest
  unfold signAlone? at halone
  simp only at halone ⊢
  generalize skip flags rest = ds at hskip halone ⊢
  generalize skip flags rest₁ = ds₁ at hskip halone ⊢
  generalize skip flags rest₂ = ds₂ at hskip halone ⊢
  cases hskip with
  | swallowed => exact .none
  | closed => exact .none
  | @cons c ds ds₁ ds₂ hskip =>
    by_cases hc : c = '-'
    · subst hc
      have hafter := hskip.skip flags
      simp only
      generalize skip flags ds = es at hafter ⊢
      generalize skip flags ds₁ = es₁ at hafter ⊢
      generalize skip flags ds₂ = es₂ at hafter ⊢
      cases hafter with
      | swallowed => exact .none
      | closed => exact .none
      | @cons d es es₁ es₂ hafter =>
        by_cases hclose : d = ']'
        · subst hclose
          exact halone
        by_cases hhyphen : d = '-'
        · subst hhyphen
          exact halone
        · simp only [List.cons.injEq, hclose, hhyphen, false_and, imp_self, implies_true]
          refine (readClassSign?_carries flags (.cons d hafter)).bind_read ?_
          intro last rest rest₁ rest₂ hrest
          refine .bind_const _ fun first => .bind_const _ fun last => ?_
          split
          · exact .read _ hrest
          · exact .none
    · simp only [List.cons.injEq, hc, false_and, imp_self, implies_true]
      exact halone

private def readClassMark (flags : Flags) (cs : List Char) : Bool × List Char :=
  match cs with
  | '^' :: rest => (true, skip flags rest)
  | cs => (false, cs)

/-- A closing bracket at the front of a class, where no hyphen stands before it. -/
private def readFirstBracket (flags : Flags) (negated : Bool)
    (front : List ClassPart × List Char) : Bool × List ClassPart × List Char :=
  match front with
  | ([], ']' :: rest) => (negated, [⟨.single ']', 0⟩], skip flags rest)
  | (parts, cs) => (negated, parts, cs)

private theorem readClassFront_eq (cs : List Char) :
    readClassFront flags cs =
      readFirstBracket flags (readClassMark flags (skip flags cs)).1
        (readHyphens flags (readClassMark flags (skip flags cs)).2.length []
          (readClassMark flags (skip flags cs)).2) :=
  rfl

private theorem readAlike_readClassMark (h : Continued behind cs cs₁ cs₂) :
    ReadAlike behind (readClassMark flags cs) (readClassMark flags cs₁)
      (readClassMark flags cs₂) := by
  unfold readClassMark
  cases h with
  | swallowed => exact ⟨rfl, rfl, .swallowed⟩
  | closed => exact ⟨rfl, rfl, .closed⟩
  | @cons c cs cs₁ cs₂ h =>
    by_cases hc : c = '^'
    · subst hc
      exact ⟨rfl, rfl, h.skip flags⟩
    · simp only [List.cons.injEq, hc, false_and, imp_self, implies_true]
      exact ⟨rfl, rfl, .cons c h⟩

private theorem bothAlike_readFirstBracket (negated : Bool)
    {front front₁ front₂ : List ClassPart × List Char} (h : ReadAlike behind front front₁ front₂) :
    BothAlike behind (readFirstBracket flags negated front) (readFirstBracket flags negated front₁)
      (readFirstBracket flags negated front₂) := by
  obtain ⟨parts, cs⟩ := front
  obtain ⟨_, cs₁⟩ := front₁
  obtain ⟨_, cs₂⟩ := front₂
  obtain ⟨rfl, rfl, h⟩ := h
  change Continued behind cs cs₁ cs₂ at h
  unfold readFirstBracket
  cases parts with
  | cons part parts => exact ⟨rfl, rfl, rfl, rfl, h⟩
  | nil =>
    cases h with
    | swallowed => exact ⟨rfl, rfl, rfl, rfl, .swallowed⟩
    | closed => exact ⟨rfl, rfl, rfl, rfl, .closed⟩
    | @cons c cs cs₁ cs₂ h =>
      by_cases hc : c = ']'
      · subst hc
        exact ⟨rfl, rfl, rfl, rfl, h.skip flags⟩
      · simp only [List.cons.injEq, hc, false_and, imp_self, implies_true]
        exact ⟨rfl, rfl, rfl, rfl, .cons c h⟩

theorem bothAlike_readClassFront (h : Continued behind cs cs₁ cs₂) :
    BothAlike behind (readClassFront flags cs) (readClassFront flags cs₁)
      (readClassFront flags cs₂) := by
  obtain ⟨hfirst, hsecond, hmark⟩ := readAlike_readClassMark flags (h.skip flags)
  obtain ⟨hrun₁, hrun₂, hrest⟩ := readAlike_readRun flags (p := (· == '-')) (by decide) hmark
    (Nat.le_refl _) (Nat.le_refl _) (Nat.le_refl _)
  rw [readClassFront_eq, readClassFront_eq, readClassFront_eq, ← hfirst, ← hsecond]
  refine bothAlike_readFirstBracket flags _ ?_
  rw [readHyphens_eq_readRun, readHyphens_eq_readRun, readHyphens_eq_readRun, ← hrun₁, ← hrun₂]
  exact ⟨rfl, rfl, hrest⟩

private def asciiClass? (flags : Flags) (negated : Bool) (cs : List Char) :
    Option (Option CharClass × List Char) :=
  match cs.dropWhile (· != ':') with
  | ':' :: ']' :: after =>
    (CharClass.ofAsciiName? (String.ofList (cs.takeWhile (· != ':')))).map fun c =>
      (flags.complemented? negated (flags.folded c), after)
  | _ => none

private theorem readAsciiName?_eq (cs : List Char) :
    readAsciiName? flags ('[' :: ':' :: cs) =
      if cs.head? = some '^' then asciiClass? flags true cs.tail
      else asciiClass? flags false cs := by
  cases cs with
  | nil => rfl
  | cons c cs =>
    by_cases hc : c = '^'
    · subst hc
      rfl
    · rw [if_neg (by simpa using hc)]
      unfold readAsciiName?
      simp only [List.cons.injEq, hc, false_and, imp_self, implies_true]
      rfl

private theorem together_asciiClass? (h : Continued behind cs cs₁ cs₂) (negated : Bool) :
    Together (ReadAlike behind) (asciiClass? flags negated cs) (asciiClass? flags negated cs₁)
      (asciiClass? flags negated cs₂) := by
  have hstop : ∀ {ds : List Char}, ':' ∉ ds → ∀ c ∈ ')' :: ds, (c != ':') = true := by
    intro ds hds c hc
    refine bne_iff_ne.2 fun heq => ?_
    subst heq
    exact hds (by simpa using hc)
  have htake := h.takeWhile_eq (p := (· != ':'))
  have hdrop := h.dropWhile_of_forall (hstop behind.no_colon.1) (hstop behind.no_colon.2)
  unfold asciiClass?
  generalize cs.dropWhile (· != ':') = ds at htake hdrop ⊢
  generalize cs₁.dropWhile (· != ':') = ds₁ at hdrop ⊢
  generalize cs₂.dropWhile (· != ':') = ds₂ at hdrop ⊢
  cases hdrop with
  | swallowed => exact .none
  | closed => exact .none
  | @cons c ds ds₁ ds₂ hdrop =>
    obtain ⟨hfirst, hsecond⟩ := htake (List.cons_ne_nil _ _)
    rw [← hfirst, ← hsecond]
    by_cases hc : c = ':'
    · subst hc
      cases hdrop with
      | swallowed => exact .none
      | closed => exact .none
      | @cons d ds ds₁ ds₂ hdrop =>
        by_cases hd : d = ']'
        · subst hd
          simp only
          cases CharClass.ofAsciiName? (String.ofList (cs.takeWhile (· != ':'))) with
          | none => exact .none
          | some c => exact .some ⟨rfl, rfl, hdrop⟩
        · simp only [List.cons.injEq, hd, true_and, false_and, imp_self, implies_true]
          exact .none
    · simp only [List.cons.injEq, hc, false_and, imp_self, implies_true]
      exact .none

/-- A name of an ASCII class is found in all three texts or in none, since no colon stands behind
the closing. -/
theorem together_readAsciiName? (h : Continued behind cs cs₁ cs₂) :
    Together (ReadAlike behind) (readAsciiName? flags ('[' :: cs))
      (readAsciiName? flags ('[' :: cs₁)) (readAsciiName? flags ('[' :: cs₂)) := by
  cases h with
  | swallowed => exact .none
  | closed => exact .none
  | @cons c cs cs₁ cs₂ h =>
    by_cases hc : c = ':'
    · subst hc
      rw [readAsciiName?_eq, readAsciiName?_eq, readAsciiName?_eq]
      cases h with
      | swallowed => exact together_asciiClass? flags .swallowed false
      | closed => exact together_asciiClass? flags .closed false
      | cons c h =>
        by_cases hc : c = '^'
        · subst hc
          exact together_asciiClass? flags h true
        · simp only [List.head?_cons, Option.some.injEq, hc, if_false]
          exact together_asciiClass? flags (.cons c h) false
    · unfold readAsciiName?
      simp only [List.cons.injEq, hc, true_and, false_and, imp_self, implies_true]
      exact .none

private def operator? : Char → Char → Option ClassOp
  | '&', '&' => some .inter
  | '-', '-' => some .minus
  | '~', '~' => some .symmetric
  | _, _ => none

private def readOperator? : List Char → Option (ClassOp × List Char)
  | c :: d :: rest => (operator? c d).map (·, rest)
  | _ => none

private theorem operator?_closing (c : Char) : operator? c ')' = none := by
  unfold operator?
  simp

private theorem readOperator?_closing (cs : List Char) : readOperator? (')' :: cs) = none := by
  cases cs with
  | nil => rfl
  | cons c cs => rfl

private theorem together_readOperator? (h : Continued behind cs cs₁ cs₂) :
    Together (ReadAlike behind) (readOperator? cs) (readOperator? cs₁) (readOperator? cs₂) := by
  cases h with
  | swallowed => exact .none
  | closed =>
    rw [readOperator?_closing, readOperator?_closing]
    exact .none
  | @cons c cs cs₁ cs₂ h =>
    cases h with
    | swallowed => exact .none
    | closed =>
      simp only [readOperator?, operator?_closing]
      exact .none
    | @cons d cs cs₁ cs₂ h =>
      simp only [readOperator?]
      cases operator? c d with
      | none => exact .none
      | some op => exact .some ⟨rfl, rfl, h⟩

private theorem readClassParts?_eq (fuel : Nat) (left : Option (ClassPart × ClassOp))
    (parts : List ClassPart) {c : Char} {ds : List Char} (hcs : skip flags cs = c :: ds) :
    readClassParts? flags (fuel + 1) left parts cs =
      if c = ']' then some (joinClass flags left (classUnion parts), ds)
      else
        match readOperator? (c :: ds) with
        | some (op, rest) =>
          readClassParts? flags fuel (some (joinClass flags left (classUnion parts), op)) [] rest
        | none =>
          if c = '[' then
            match readAsciiName? flags ('[' :: ds) with
            | some (members, rest) => do
              readClassParts? flags fuel left (⟨← members, 0⟩ :: parts) rest
            | none => do
              let (part, rest) ← readClass? flags fuel ds
              readClassParts? flags fuel left (part :: parts) rest
          else (do
            let (members, rest) ← readClassItem? flags (c :: ds)
            readClassParts? flags fuel left (⟨members, 0⟩ :: parts) rest) := by
  rw [readClassParts?.eq_def]
  simp only [hcs]
  by_cases hclose : c = ']'
  · subst hclose
    rfl
  rw [if_neg hclose]
  by_cases hopen : c = '['
  · subst hopen
    cases ds with
    | nil => rfl
    | cons d ds => rfl
  rw [if_neg hopen]
  split
  · next heq => cases heq
  · next heq => cases heq; exact absurd rfl hclose
  · next heq => cases heq; rfl
  · next heq => cases heq; rfl
  · next heq => cases heq; rfl
  · next heq => cases heq; exact absurd rfl hopen
  · next hand hminus htilde _ =>
    have hnone : readOperator? (c :: ds) = none := by
      cases ds with
      | nil => rfl
      | cons d ds =>
        rw [readOperator?, operator?.eq_4 _ _ (fun hc hd => hand ds (by rw [hc, hd]))
          (fun hc hd => hminus ds (by rw [hc, hd])) (fun hc hd => htilde ds (by rw [hc, hd]))]
        rfl
    rw [hnone]

/-- Classes, and their parts up to the closing bracket: by induction on the fuel, of which there may
be more where more text stands. -/
private theorem readClass?_carries_aux (fuel : Nat) :
    (∀ {fuel₁ fuel₂ cs cs₁ cs₂}, fuel ≤ fuel₁ → fuel ≤ fuel₂ → Continued behind cs cs₁ cs₂ →
      Carries (ReadAlike behind) (readClass? flags fuel cs) (readClass? flags fuel₁ cs₁)
        (readClass? flags fuel₂ cs₂)) ∧
    (∀ {fuel₁ fuel₂ cs cs₁ cs₂} (left parts), fuel ≤ fuel₁ → fuel ≤ fuel₂ →
      Continued behind cs cs₁ cs₂ → Carries (ReadAlike behind)
        (readClassParts? flags fuel left parts cs) (readClassParts? flags fuel₁ left parts cs₁)
        (readClassParts? flags fuel₂ left parts cs₂)) := by
  induction fuel with
  | zero =>
    constructor
    · intro fuel₁ fuel₂ cs cs₁ cs₂ _ _ _
      rw [readClass?]
      exact .none
    · intro fuel₁ fuel₂ cs cs₁ cs₂ left parts _ _ _
      rw [readClassParts?]
      exact .none
  | succ fuel ih =>
    obtain ⟨hclass, hparts⟩ := ih
    constructor
    · intro fuel₁ fuel₂ cs cs₁ cs₂ hfuel₁ hfuel₂ h
      obtain ⟨fuel₁, rfl, hle₁⟩ := exists_succ_of_le hfuel₁
      obtain ⟨fuel₂, rfl, hle₂⟩ := exists_succ_of_le hfuel₂
      have hfront := bothAlike_readClassFront flags h
      rw [readClass?, readClass?, readClass?]
      generalize readClassFront flags cs = front at hfront ⊢
      generalize readClassFront flags cs₁ = front₁ at hfront ⊢
      generalize readClassFront flags cs₂ = front₂ at hfront ⊢
      obtain ⟨negated, parts, ds⟩ := front
      obtain ⟨_, _, ds₁⟩ := front₁
      obtain ⟨_, _, ds₂⟩ := front₂
      obtain ⟨rfl, rfl, rfl, rfl, hds⟩ := hfront
      refine (hparts none parts hle₁ hle₂ hds).bind_read ?_
      intro part rest rest₁ rest₂ hrest
      exact .bind_const _ fun members => .read _ hrest
    · intro fuel₁ fuel₂ cs cs₁ cs₂ left parts hfuel₁ hfuel₂ h
      obtain ⟨fuel₁, rfl, hle₁⟩ := exists_succ_of_le hfuel₁
      obtain ⟨fuel₂, rfl, hle₂⟩ := exists_succ_of_le hfuel₂
      have hskip := h.skip flags
      generalize hds : skip flags cs = ds at hskip
      generalize hds₁ : skip flags cs₁ = ds₁ at hskip
      generalize hds₂ : skip flags cs₂ = ds₂ at hskip
      cases hskip with
      | swallowed =>
        rw [readClassParts?.eq_def]
        simp only [hds]
        exact .none
      | closed =>
        rw [readClassParts?.eq_def]
        simp only [hds]
        exact .none
      | @cons c ds ds₁ ds₂ hskip =>
        rw [readClassParts?_eq flags fuel left parts hds,
          readClassParts?_eq flags fuel₁ left parts hds₁,
          readClassParts?_eq flags fuel₂ left parts hds₂]
        split
        · exact .read _ hskip
        have hoperator := together_readOperator? (.cons c hskip)
        generalize readOperator? (c :: ds) = op at hoperator ⊢
        generalize readOperator? (c :: ds₁) = op₁ at hoperator ⊢
        generalize readOperator? (c :: ds₂) = op₂ at hoperator ⊢
        cases hoperator with
        | @some op op₁ op₂ hop =>
          obtain ⟨op, rest⟩ := op
          obtain ⟨_, rest₁⟩ := op₁
          obtain ⟨_, rest₂⟩ := op₂
          obtain ⟨rfl, rfl, hrest⟩ := hop
          exact hparts _ [] hle₁ hle₂ hrest
        | none =>
          simp only
          split
          · have hname := together_readAsciiName? flags hskip
            generalize readAsciiName? flags ('[' :: ds) = found at hname ⊢
            generalize readAsciiName? flags ('[' :: ds₁) = found₁ at hname ⊢
            generalize readAsciiName? flags ('[' :: ds₂) = found₂ at hname ⊢
            cases hname with
            | @some found found₁ found₂ hfound =>
              obtain ⟨members, rest⟩ := found
              obtain ⟨_, rest₁⟩ := found₁
              obtain ⟨_, rest₂⟩ := found₂
              obtain ⟨rfl, rfl, hrest⟩ := hfound
              exact .bind_const _ fun members => hparts _ _ hle₁ hle₂ hrest
            | none =>
              refine (hclass hle₁ hle₂ hskip).bind_read ?_
              intro part rest rest₁ rest₂ hrest
              exact hparts _ _ hle₁ hle₂ hrest
          · refine (readClassItem?_carries flags (.cons c hskip)).bind_read ?_
            intro members rest rest₁ rest₂ hrest
            exact hparts _ _ hle₁ hle₂ hrest

theorem readClass?_carries (h : Continued behind cs cs₁ cs₂) {fuel fuel₁ fuel₂ : Nat}
    (hfuel₁ : fuel ≤ fuel₁) (hfuel₂ : fuel ≤ fuel₂) :
    Carries (ReadAlike behind) (readClass? flags fuel cs) (readClass? flags fuel₁ cs₁)
      (readClass? flags fuel₂ cs₂) :=
  (readClass?_carries_aux flags fuel).1 hfuel₁ hfuel₂ h

end Swell.Pattern

import Swell.Proofs.Pattern.ClosingClass
import Swell.Proofs.Pattern.Matching
import Swell.Recogniser

/-!
# Sources between anchors

A pattern is anchored by pasting its source between an opening and a closing, so the source is
read there with the closing behind it. Main statements: a source that is an expression of its own
reads alike between the anchors, and so accepts exactly the atoms that it matches from end to end,
also when it is joined with no other; a source that is none can close the group around it, and then
the anchors bind its first and its last branch only.
-/
namespace Swell.Pattern
open Swell.Text

variable {behind : Behind} {cs cs₁ cs₂ : List Char} (flags : Flags)

theorem continued_dropLazyMark (h : Continued behind cs cs₁ cs₂) :
    Continued behind (dropLazyMark cs) (dropLazyMark cs₁) (dropLazyMark cs₂) := by
  cases h with
  | swallowed => exact .swallowed
  | closed => exact .closed
  | @cons c cs cs₁ cs₂ h =>
    by_cases hc : c = '?'
    · subst hc
      exact h
    · have hplain : ∀ ds, dropLazyMark (c :: ds) = c :: ds :=
        fun ds => dropLazyMark.eq_2 _ fun rest heq => hc (List.cons.inj heq).1
      rw [hplain, hplain, hplain]
      exact .cons c h

private def readMost? (flags : Flags) (least : Nat) (cs : List Char) :
    Option ((Nat × Option Nat) × List Char) := do
  let (most, rest) ← readNumber? flags cs
  match rest with
  | '\x7d' :: rest => if least ≤ most then some ((least, some most), rest) else none
  | _ => none

private theorem readMost?_carries (h : Continued behind cs cs₁ cs₂) (least : Nat) :
    Carries (ReadAlike behind) (readMost? flags least cs) (readMost? flags least cs₁)
      (readMost? flags least cs₂) := by
  refine (readNumber?_carries flags h).bind_read ?_
  intro most rest rest₁ rest₂ hrest
  simp only
  cases hrest with
  | swallowed => exact .none
  | closed => exact .none
  | @cons d rest rest₁ rest₂ hrest =>
    by_cases hd : d = '\x7d'
    · subst hd
      simp only
      split
      · exact .read _ hrest
      · exact .none
    · simp only [List.cons.injEq, hd, false_and, imp_self, implies_true]
      exact .none

theorem readBounds?_carries (h : Continued behind cs cs₁ cs₂) :
    Carries (ReadAlike behind) (readBounds? flags cs) (readBounds? flags cs₁)
      (readBounds? flags cs₂) := by
  unfold readBounds?
  refine (readNumber?_carries flags (h.skip flags)).bind_read ?_
  intro least rest rest₁ rest₂ hrest
  simp only
  cases hrest with
  | swallowed => exact .none
  | closed => exact .none
  | @cons c rest rest₁ rest₂ hrest =>
    by_cases hbrace : c = '\x7d'
    · subst hbrace
      exact .read _ hrest
    by_cases hcomma : c = ','
    · subst hcomma
      have hskip := hrest.skip flags
      simp only
      generalize skip flags rest = ds at hskip ⊢
      generalize skip flags rest₁ = ds₁ at hskip ⊢
      generalize skip flags rest₂ = ds₂ at hskip ⊢
      cases hskip with
      | swallowed => exact readMost?_carries flags .swallowed least
      | closed => exact readMost?_carries flags .closed least
      | @cons d ds ds₁ ds₂ hskip =>
        by_cases hd : d = '\x7d'
        · subst hd
          exact .read _ hskip
        · simp only [List.cons.injEq, hd, false_and, imp_self, implies_true]
          exact readMost?_carries flags (.cons d hskip) least
    · simp only [List.cons.injEq, hbrace, hcomma, false_and, imp_self, implies_true]
      exact .none

theorem readGroupName?_carries (h : Continued behind cs cs₁ cs₂) :
    Carries (ReadAlike behind) (readGroupName? cs) (readGroupName? cs₁) (readGroupName? cs₂) := by
  induction h with
  | swallowed => exact .none
  | closed => exact .none
  | cons c h ih =>
    rw [readGroupName?, readGroupName?, readGroupName?]
    split
    · exact .read _ h
    · refine ih.map ?_
      rintro ⟨name, rest⟩ ⟨_, rest₁⟩ ⟨_, rest₂⟩ ⟨rfl, rfl, hrest⟩
      exact ⟨rfl, rfl, hrest⟩

theorem readFlags?_carries (h : Continued behind cs cs₁ cs₂) (seen : List Char)
    (negated dangling : Bool) :
    Carries (BothAlike behind) (readFlags? seen negated dangling cs)
      (readFlags? seen negated dangling cs₁) (readFlags? seen negated dangling cs₂) := by
  induction h generalizing seen negated dangling with
  | swallowed => exact .none
  | closed => exact .none
  | cons c h ih =>
    rw [readFlags?, readFlags?, readFlags?]
    split
    · split
      · exact .none
      · exact .some ⟨rfl, rfl, rfl, rfl, h⟩
    · split
      · split
        · exact .none
        · exact ih _ _ _
      · split
        · refine (ih _ _ _).map ?_
          rintro ⟨settings, close, rest⟩ ⟨_, _, rest₁⟩ ⟨_, _, rest₂⟩ ⟨rfl, rfl, rfl, rfl, hrest⟩
          exact ⟨rfl, rfl, rfl, rfl, hrest⟩
        · exact .none

private def readNamed? (flags : Flags) (names : List (List Char)) (cs : List Char) :
    Option (Opening × List Char) := do
  let (name, rest) ← readGroupName? cs
  if name.isEmpty || names.contains name then none else some (.group flags (name :: names), rest)

private def readFlagged? (flags : Flags) (names : List (List Char)) (cs : List Char) :
    Option (Opening × List Char) := do
  let (settings, close, rest) ← readFlags? [] false false cs
  let changed := settings.foldl (fun flags s => flags.set s.1 s.2) flags
  if close == ':' then some (.group changed names, rest)
  else if settings.isEmpty then none
  else some (.settings changed, rest)

private theorem readNamed?_carries (h : Continued behind cs cs₁ cs₂) (names : List (List Char)) :
    Carries (ReadAlike behind) (readNamed? flags names cs) (readNamed? flags names cs₁)
      (readNamed? flags names cs₂) := by
  refine (readGroupName?_carries h).bind_read ?_
  intro name rest rest₁ rest₂ hrest
  simp only
  split
  · exact .none
  · exact .read _ hrest

private theorem readFlagged?_carries (h : Continued behind cs cs₁ cs₂) (names : List (List Char)) :
    Carries (ReadAlike behind) (readFlagged? flags names cs) (readFlagged? flags names cs₁)
      (readFlagged? flags names cs₂) := by
  refine (readFlags?_carries h [] false false).bind ?_
  rintro ⟨settings, close, rest⟩ ⟨_, _, rest₁⟩ ⟨_, _, rest₂⟩ ⟨rfl, rfl, rfl, rfl, hrest⟩
  simp only
  split
  · exact .read _ hrest
  · split
    · exact .none
    · exact .read _ hrest

theorem readOpening?_carries (h : Continued behind cs cs₁ cs₂) (names : List (List Char)) :
    Carries (ReadAlike behind) (readOpening? flags names cs) (readOpening? flags names cs₁)
      (readOpening? flags names cs₂) := by
  cases h with
  | swallowed => exact .read _ .swallowed
  | closed => exact .read _ .closed
  | @cons c cs cs₁ cs₂ h =>
    by_cases hc : c = '?'
    case neg =>
      unfold readOpening?
      simp only [List.cons.injEq, hc, false_and, imp_self, implies_true]
      exact .read _ (.cons c h)
    subst hc
    cases h with
    | swallowed => exact .none
    | closed => exact .none
    | @cons d cs cs₁ cs₂ h =>
      by_cases hd : d = '<'
      · subst hd
        exact readNamed?_carries flags h names
      by_cases hp : d = 'P'
      case neg =>
        unfold readOpening?
        simp only [List.cons.injEq, hd, hp, false_and, imp_self, implies_true]
        exact readFlagged?_carries flags (.cons d h) names
      subst hp
      cases h with
      | swallowed => exact .none
      | closed => exact .none
      | @cons e cs cs₁ cs₂ h =>
        by_cases he : e = '<'
        · subst he
          exact readNamed?_carries flags h names
        · unfold readOpening?
          simp only [List.cons.injEq, hd, he, true_and, false_and, imp_self, implies_true]
          exact readFlagged?_carries flags (.cons 'P' (.cons e h)) names

theorem readSign?_carries (h : Continued behind cs cs₁ cs₂) :
    Carries (ReadAlike behind) (readSign? flags cs) (readSign? flags cs₁)
      (readSign? flags cs₂) := by
  cases h with
  | swallowed => exact .none
  | closed => exact .none
  | @cons c cs cs₁ cs₂ h =>
    by_cases hescape : c = '\\'
    · subst hescape
      refine (readEscape?_carries flags h).bind_read ?_
      intro sign rest rest₁ rest₂ hrest
      exact .map_const _ fun e => ⟨rfl, rfl, hrest⟩
    by_cases hdot : c = '.'
    · subst hdot
      exact .map_const _ fun e => ⟨rfl, rfl, h⟩
    by_cases hstart : c = '^'
    · subst hstart
      exact .read _ h
    by_cases hend : c = '$'
    · subst hend
      exact .read _ h
    simp only [readSign?.eq_6 _ _ _ hescape hdot hstart hend]
    exact .map_const _ fun e => ⟨rfl, rfl, h⟩

/-- Branches read alike up to the end of the text and up to the closing. The induction is on the
fuel, of which there may be more where more text stands. -/
theorem readBranches?_carries (h : Continued behind cs cs₁ cs₂) (names : List (List Char))
    (done : List Piece) (branch : Branch) {fuel fuel₁ fuel₂ : Nat} (hfuel₁ : fuel ≤ fuel₁)
    (hfuel₂ : fuel ≤ fuel₂) :
    Carries (BothAlike behind) (readBranches? flags names done branch fuel cs)
      (readBranches? flags names done branch fuel₁ cs₁)
      (readBranches? flags names done branch fuel₂ cs₂) := by
  induction fuel generalizing flags names done branch fuel₁ fuel₂ cs cs₁ cs₂ with
  | zero =>
    rw [readBranches?]
    exact .none
  | succ fuel ih =>
    obtain ⟨fuel₁, rfl, hle₁⟩ := exists_succ_of_le hfuel₁
    obtain ⟨fuel₂, rfl, hle₂⟩ := exists_succ_of_le hfuel₂
    have hrepeated : ∀ (least : Nat) (most : Option Nat) {ds ds₁ ds₂},
        Continued behind ds ds₁ ds₂ →
        let repeated (fuel : Nat) (rest : List Char) := do
          readBranches? flags names done (← branch.repeat? least most) fuel (dropLazyMark rest)
        Carries (BothAlike behind) (repeated fuel ds) (repeated fuel₁ ds₁) (repeated fuel₂ ds₂) :=
      fun least most _ _ _ hds => .bind_const _ fun branch =>
        ih flags (continued_dropLazyMark hds) names done branch hle₁ hle₂
    have hskip := h.skip flags
    rw [readBranches?.eq_def, readBranches?.eq_def flags names done branch (fuel₁ + 1),
      readBranches?.eq_def flags names done branch (fuel₂ + 1)]
    simp only
    generalize skip flags cs = ds at hskip ⊢
    generalize skip flags cs₁ = ds₁ at hskip ⊢
    generalize skip flags cs₂ = ds₂ at hskip ⊢
    cases hskip with
    | swallowed => exact .some ⟨rfl, rfl, rfl, rfl, .swallowed⟩
    | closed => exact .some ⟨rfl, rfl, rfl, rfl, .closed⟩
    | @cons c ds ds₁ ds₂ hds =>
      by_cases hclose : c = ')'
      · subst hclose
        exact .some ⟨rfl, rfl, rfl, rfl, .cons _ hds⟩
      by_cases hbar : c = '|'
      · subst hbar
        exact ih flags hds names _ [] hle₁ hle₂
      by_cases hmark : c = '?'
      · subst hmark
        exact hrepeated 0 (some 1) hds
      by_cases hstar : c = '*'
      · subst hstar
        exact hrepeated 0 none hds
      by_cases hplus : c = '+'
      · subst hplus
        exact hrepeated 1 none hds
      by_cases hbrace : c = '\x7b'
      · subst hbrace
        refine (readBounds?_carries flags hds).bind_read ?_
        intro bounds rest rest₁ rest₂ hrest
        exact hrepeated _ _ (hrest.skip flags)
      by_cases hclass : c = '['
      · subst hclass
        refine (readClass?_carries flags hds (Nat.succ_le_succ hds.length_le.1)
          (Nat.succ_le_succ hds.length_le.2)).bind_read ?_
        intro part rest rest₁ rest₂ hrest
        exact ih flags hrest names done _ hle₁ hle₂
      by_cases hgroup : c = '('
      · subst hgroup
        refine (readOpening?_carries flags (hds.skip flags) names).bind_read ?_
        intro opening rest rest₁ rest₂ hrest
        cases opening with
        | settings changed => exact ih changed hrest names done _ hle₁ hle₂
        | group changed names' =>
          refine (ih changed hrest names' [] [] hle₁ hle₂).bind ?_
          rintro ⟨piece, names'', rest⟩ ⟨_, _, rest₁⟩ ⟨_, _, rest₂⟩ ⟨rfl, rfl, rfl, rfl, hrest⟩
          simp only at hrest ⊢
          cases hrest with
          | swallowed => exact .none
          | closed => exact .none
          | @cons d rest rest₁ rest₂ hrest =>
            by_cases hd : d = ')'
            · subst hd
              exact ih flags hrest names'' done _ hle₁ hle₂
            · split
              · next heq => cases heq; exact absurd rfl hd
              · exact .none
      · simp only [List.cons.injEq, hclose, hbar, hmark, hstar, hplus, hbrace, hclass, hgroup,
          false_and, imp_self, implies_true]
        refine (readSign?_carries flags (.cons c hds)).bind_read ?_
        intro e rest rest₁ rest₂ hrest
        exact ih flags hrest names done _ hle₁ hle₂

/-- A closing behind a text that leaves nothing: it is left, or a comment swallowed it. -/
theorem readBranches?_closing {fuel fuel₁ fuel₂ : Nat} {piece : Piece} {names : List (List Char)}
    (h : readBranches? {} [] [] [] fuel cs = some (piece, names, [])) (behind : Behind)
    (hfuel₁ : fuel ≤ fuel₁) (hfuel₂ : fuel ≤ fuel₂) :
    ∃ rest₁ rest₂, Continued behind [] rest₁ rest₂ ∧
      readBranches? {} [] [] [] fuel₁ (cs ++ ')' :: behind.first) = some (piece, names, rest₁) ∧
      readBranches? {} [] [] [] fuel₂ (cs ++ ')' :: behind.second) =
        some (piece, names, rest₂) := by
  obtain ⟨⟨_, _, rest₁⟩, ⟨_, _, rest₂⟩, hfirst, hsecond, rfl, rfl, rfl, rfl, hrest⟩ :=
    readBranches?_carries {} (.append behind cs) [] [] [] hfuel₁ hfuel₂ _ h
  exact ⟨rest₁, rest₂, hrest, hfirst, hsecond⟩

/-- A group without a name at the front of a text. -/
theorem readBranches?_group (branch : Branch) (names : List (List Char)) (fuel : Nat) :
    readBranches? {} names [] branch (fuel + 1) ('(' :: '?' :: ':' :: cs) = (do
      match ← readBranches? {} names [] [] fuel cs with
      | (piece, names, ')' :: rest) =>
        readBranches? {} names [] (some ⟨piece.expr, piece.nesting + 1⟩ :: branch) fuel rest
      | _ => none) :=
  rfl

theorem readBranches?_anchored {fuel : Nat} {piece : Piece} {names : List (List Char)}
    (h : readBranches? {} [] [] [] (fuel + 2) cs = some (piece, names, [')', '$'])) :
    readBranches? {} [] [] [] (fuel + 4) ('^' :: '(' :: '?' :: ':' :: cs) =
      some (⟨.wholly piece.expr, piece.nesting + 2⟩, names, []) := by
  change readBranches? {} [] [] [some ⟨.look .textStart, 0⟩] (fuel + 3)
    ('(' :: '?' :: ':' :: cs) = _
  have hnesting : nestingOf [⟨.look .textEnd, 0⟩, ⟨piece.expr, piece.nesting + 1⟩,
      ⟨.look .textStart, 0⟩] = piece.nesting + 2 := by
    change 1 + max (max (max 0 0) (piece.nesting + 1)) 0 = piece.nesting + 2
    omega
  rw [readBranches?_group, h, ← hnesting]
  rfl

/-- No anchor closes a text of which the branches leave no closing. -/
theorem readBranches?_anchored_eq_none {fuel : Nat}
    (h : ∀ piece names rest,
      readBranches? {} [] [] [] (fuel + 2) cs ≠ some (piece, names, ')' :: rest)) :
    readBranches? {} [] [] [] (fuel + 4) ('^' :: '(' :: '?' :: ':' :: cs) = none := by
  change readBranches? {} [] [] [some ⟨.look .textStart, 0⟩] (fuel + 3)
    ('(' :: '?' :: ':' :: cs) = _
  rw [readBranches?_group]
  rcases hbranches : readBranches? {} [] [] [] (fuel + 2) cs with _ | ⟨piece, names, rest⟩
  · rfl
  · change (match (piece, names, rest) with
      | (piece, names, ')' :: rest) => _
      | _ => none) = _
    split
    · next heq =>
      cases heq
      exact absurd hbranches (h _ _ _)
    · rfl

theorem readWhole?_eq_some_iff {piece : Piece} {names : List (List Char)} :
    readWhole? cs = some (piece, names) ↔
      readBranches? {} [] [] [] (cs.length + 1) cs = some (piece, names, []) := by
  unfold readWhole?
  rcases readBranches? {} [] [] [] (cs.length + 1) cs with _ | ⟨piece', names', _ | ⟨c, rest⟩⟩
  · simp
  · simp
  · simp

theorem Expr.read?_eq_some_iff {e : Expr} :
    Expr.read? cs = some e ↔
      ∃ piece names, readWhole? cs = some (piece, names) ∧ piece.nesting ≤ nestingLimit ∧
        piece.expr = e := by
  unfold Expr.read?
  rcases readWhole? cs with _ | ⟨piece, names⟩
  · simp
  · simp

/-- The depth of a whole text as an expression. -/
def depth? (source : String) : Option Nat :=
  (readWhole? source.toList).map (·.1.nesting)

/-- How an anchored source is read, with fuel for the signs of the anchors. -/
theorem readWhole?_anchored_eq (source : String) :
    readWhole? (anchored source).toList =
      match readBranches? {} [] [] [] (source.toList.length + 3 + 4)
        ('^' :: '(' :: '?' :: ':' :: (source.toList ++ [')', '$'])) with
      | some (piece, names, []) => some (piece, names)
      | _ => none := by
  have hlist : (anchored source).toList =
      '^' :: '(' :: '?' :: ':' :: (source.toList ++ [')', '$']) := by
    simp [anchored]
  have hfuel : ∀ cs fuel, fuel = cs.length + 1 → readWhole? cs =
      match readBranches? {} [] [] [] fuel cs with
      | some (piece, names, []) => some (piece, names)
      | _ => none := by
    rintro cs _ rfl
    rfl
  rw [hlist]
  exact hfuel _ _ (by simp)

theorem joinedSource_singleton (p : Pattern) : joinedSource [p] = "(?:" ++ p.source ++ ")" := by
  simp [joinedSource, String.join]

/-- What stands behind a source between anchors, and behind a source that is joined alone. -/
def anchorsBehind : Behind :=
  ⟨['$'], [')', '$'], by decide, by decide⟩

/-- A source that is an expression of its own reads alike between anchors and in another group
between anchors, or its end swallows the anchor in both. -/
theorem readWhole?_anchored {source : String} {piece : Piece} {names : List (List Char)}
    (h : readWhole? source.toList = some (piece, names)) :
    readWhole? (anchored source).toList = none ∧
        readWhole? (anchored ("(?:" ++ source ++ ")")).toList = none ∨
      readWhole? (anchored source).toList = some (⟨.wholly piece.expr, piece.nesting + 2⟩, names) ∧
        readWhole? (anchored ("(?:" ++ source ++ ")")).toList =
          some (⟨.wholly piece.expr, piece.nesting + 3⟩, names) := by
  obtain ⟨rest₁, rest₂, hrest, hfirst, hsecond⟩ :=
    readBranches?_closing (readWhole?_eq_some_iff.1 h) anchorsBehind
      (show _ ≤ source.toList.length + 3 + 2 by omega)
      (show _ ≤ source.toList.length + 7 + 1 by omega)
  change readBranches? {} [] [] [] _ (source.toList ++ [')', '$']) = _ at hfirst
  change readBranches? {} [] [] [] _ (source.toList ++ [')', ')', '$']) = _ at hsecond
  have hlist : ("(?:" ++ source ++ ")").toList ++ [')', '$'] =
      '(' :: '?' :: ':' :: (source.toList ++ [')', ')', '$']) := by
    simp
  have hlength : ("(?:" ++ source ++ ")").toList.length = source.toList.length + 4 := by
    simp
  rw [readWhole?_anchored_eq, readWhole?_anchored_eq, hlist, hlength]
  cases hrest with
  | swallowed =>
    refine .inl ⟨?_, ?_⟩
    · rw [readBranches?_anchored_eq_none]
      rw [hfirst]
      simp
    · rw [readBranches?_anchored_eq_none]
      rw [readBranches?_group, hsecond]
      exact fun _ _ _ heq => nomatch heq
  | closed =>
    have hgroup : readBranches? {} [] [] [] (source.toList.length + 7 + 2)
        ('(' :: '?' :: ':' :: (source.toList ++ [')', ')', '$'])) =
          some (⟨piece.expr, piece.nesting + 1⟩, names, [')', '$']) := by
      rw [readBranches?_group, hsecond]
      rfl
    refine .inr ⟨?_, ?_⟩
    · rw [readBranches?_anchored hfirst]
    · rw [readBranches?_anchored hgroup]

/-- The engine makes the same of a source whether or not a group without a name stands around it. -/
def Engine.ErasesGroups (engine : Engine) : Prop :=
  ∀ source, (Expr.read? source.toList).isSome = true →
    engine.takes (anchored ("(?:" ++ source ++ ")")) = engine.takes (anchored source)

theorem Engine.standard_erasesGroups : Engine.standard.ErasesGroups := by
  intro source hsource
  obtain ⟨e, he⟩ := Option.isSome_iff_exists.1 hsource
  obtain ⟨piece, names, hpiece, -, -⟩ := Expr.read?_eq_some_iff.1 he
  change fits _ = fits _
  obtain ⟨hanchored, hgroup⟩ | ⟨hanchored, hgroup⟩ := readWhole?_anchored hpiece
  · rw [fits, fits, hanchored, hgroup]
  · rw [fits, fits, hanchored, hgroup]

theorem read_eq_ok_iff [Engine] {source : String} {p : Pattern} :
    read source = .ok p ↔
      ∃ e, Expr.read? (anchored source).toList = some e ∧
        Engine.takes (anchored source) = true ∧ p = ⟨source, e⟩ := by
  unfold read
  cases Expr.read? (anchored source).toList with
  | none => simp
  | some e =>
    by_cases htakes : Engine.takes (anchored source) = true
    · simp [htakes, eq_comm]
    · simp [htakes]

section

variable [engine : Engine] {source : String} {p : Pattern} {e : Expr}
  (hengine : engine.ErasesGroups) (hp : read source = .ok p)
  (he : Expr.read? source.toList = some e)
include hengine hp he

/-- A pattern whose source is an expression holds this expression between anchors, and joined alone
it reads the same, one group deeper. -/
theorem read_own :
    p = ⟨source, .wholly e⟩ ∧
      ∃ n ≤ nestingLimit, depth? (anchored source) = some n ∧
        ∀ q, join [p] = .ok q ↔ n < nestingLimit ∧ q = ⟨"(?:" ++ source ++ ")", .wholly e⟩ := by
  obtain ⟨piece, names, hpiece, -, rfl⟩ := Expr.read?_eq_some_iff.1 he
  obtain ⟨e', he', htakes, rfl⟩ := read_eq_ok_iff.1 hp
  obtain ⟨anchoredPiece, names', hanchored, hdepth, rfl⟩ := Expr.read?_eq_some_iff.1 he'
  obtain ⟨hnone, -⟩ | ⟨hsome, hgroup⟩ := readWhole?_anchored hpiece
  · rw [hnone] at hanchored
    cases hanchored
  rw [hsome] at hanchored
  cases hanchored
  refine ⟨rfl, piece.nesting + 2, hdepth, ?_, fun q => ?_⟩
  · rw [depth?, hsome]
    rfl
  rw [join, joinedSource_singleton, read_eq_ok_iff, hengine source (by rw [he]; rfl)]
  constructor
  · rintro ⟨e, he, -, rfl⟩
    obtain ⟨joined, names', hjoined, hdepth', rfl⟩ := Expr.read?_eq_some_iff.1 he
    rw [hgroup] at hjoined
    cases hjoined
    exact ⟨hdepth', rfl⟩
  · rintro ⟨hlt, rfl⟩
    exact ⟨_, Expr.read?_eq_some_iff.2 ⟨_, _, hgroup, hlt, rfl⟩, htakes, rfl⟩

theorem accepts_own_iff (atom : Atom) :
    p.accepts atom = true ↔ e.Matches atom.toList 0 atom.toList.length := by
  obtain ⟨rfl, -⟩ := read_own hengine hp he
  exact Expr.found_wholly_iff _ e

theorem join_own_accepts {q : Pattern} (hq : join [p] = .ok q) (atom : Atom) :
    q.accepts atom = p.accepts atom := by
  obtain ⟨rfl, n, -, -, hjoin⟩ := read_own hengine hp he
  obtain ⟨-, rfl⟩ := (hjoin q).1 hq
  rfl

/-- Joined alone, such a pattern is readable unless its depth is just at the limit. -/
theorem exists_join_own_iff :
    (∃ q, join [p] = .ok q) ↔ depth? (anchored source) ≠ some nestingLimit := by
  obtain ⟨-, n, hn, hdepth, hjoin⟩ := read_own hengine hp he
  rw [hdepth, Ne, Option.some.injEq]
  constructor
  · rintro ⟨q, hq⟩
    exact Nat.ne_of_lt ((hjoin q).1 hq).1
  · intro hne
    exact ⟨_, (hjoin _).2 ⟨Nat.lt_of_le_of_ne hn hne, rfl⟩⟩

end

/-- Patterns match their atoms from end to end, where the source is an expression of its own: the
pattern accepts exactly the atoms that this expression matches as a whole, it is readable alone in
a group unless its depth is just at the limit, it accepts the same atoms there, and no recogniser
made of it takes an atom of which the expression matches a proper part only. The engine may know
any names and have any limits, as long as a group without a name makes no difference to it. -/
theorem sources_match_whole_atoms [engine : Engine] (hengine : engine.ErasesGroups)
    {source : String} {p : Pattern} {e : Expr} (hp : read source = .ok p)
    (he : Expr.read? source.toList = some e) :
    (∀ atom, p.accepts atom = true ↔ e.Matches atom.toList 0 atom.toList.length) ∧
    ((∃ q, join [p] = .ok q) ↔ depth? (anchored source) ≠ some nestingLimit) ∧
    (∀ q, join [p] = .ok q → ∀ atom, q.accepts atom = p.accepts atom) ∧
    ∀ t h next, (t = Token.ofPattern p ∨ Token.compound [p] = .ok t) → t.take h = .ok next →
      ∃ s atom, h.last? = some s ∧ s.head? = some atom ∧
        e.Matches atom.toList 0 atom.toList.length := by
  refine ⟨accepts_own_iff hengine hp he, exists_join_own_iff hengine hp he,
    fun q hq => join_own_accepts hengine hp he hq, fun t h next ht htake => ?_⟩
  have haccepts : ∀ atom, t.pattern.accepts atom = p.accepts atom := by
    rcases ht with rfl | ht
    · exact fun atom => rfl
    · rw [Token.compound] at ht
      cases hq : join [p] with
      | error f =>
        rw [hq] at ht
        cases ht
      | ok q =>
        rw [hq] at ht
        cases ht
        exact join_own_accepts hengine hp he hq
  obtain ⟨s, s', hs, hhead, -, -⟩ := (t.take_eq_ok_iff h next).1 htake
  obtain ⟨atom, hatom, hmatch⟩ := (Option.any_eq_true _ _).1 hhead
  exact ⟨s, atom, hs, hatom, (accepts_own_iff hengine hp he atom).1 (haccepts atom ▸ hmatch)⟩

theorem letter_branches_match_whole_atoms :
    ∃ p e, read "P|T" = .ok p ∧ Expr.read? "P|T".toList = some e ∧
      ∀ atom, p.accepts atom = true ↔ e.Matches atom.toList 0 atom.toList.length := by
  have hp : read "P|T" = .ok ⟨"P|T", .wholly (.either (.one (.single 'P')) (.one (.single 'T')))⟩ :=
    by decide +kernel
  have he : Expr.read? "P|T".toList = some (.either (.one (.single 'P')) (.one (.single 'T'))) := by
    decide +kernel
  exact ⟨_, _, hp, he, (sources_match_whole_atoms Engine.standard_erasesGroups hp he).1⟩

/-- A source that is no expression of its own can close the group around it: then its first branch
is bound to the start of the atom only, its last one to the end only, and joined alone the pattern
accepts other atoms. -/
theorem unbalanced_source_matches_proper_parts :
    ∃ p q, read "F)|(?:P" = .ok p ∧ Expr.read? "F)|(?:P".toList = none ∧ p.accepts "Fx" = true ∧
      join [p] = .ok q ∧ q.accepts "Fx" = false := by
  refine ⟨⟨"F)|(?:P", .either (.next (.look .textStart) (.one (.single 'F')))
    (.next (.one (.single 'P')) (.look .textEnd))⟩,
    ⟨"(?:F)|(?:P)", .wholly (.either (.one (.single 'F')) (.one (.single 'P')))⟩, ?_⟩
  decide +kernel

end Swell.Pattern

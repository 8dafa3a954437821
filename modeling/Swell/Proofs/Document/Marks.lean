import Swell.Document

/-!
# The marks of document names

Main statements: the pieces of two texts joined by the mark are the pieces of the one and the pieces
of the other; and the name of a file has the mark of a kind exactly if this stands between the last
two points of the name.
-/
namespace Swell

namespace Text

variable {mark : Char}

theorem piecesOfChars_append (cs ds : List Char) :
    piecesOfChars mark (cs ++ mark :: ds) = piecesOfChars mark cs ++ piecesOfChars mark ds := by
  induction cs with
  | nil => simp [piecesOfChars]
  | cons c cs ih =>
    rw [List.cons_append, piecesOfChars, piecesOfChars, ih]
    cases hp : piecesOfChars mark cs with
    | nil => exact absurd hp (piecesOfChars_ne_nil mark cs)
    | cons piece rest => split <;> rfl

theorem piecesOfChars_of_not_mem {cs : List Char} (h : mark ∉ cs) :
    piecesOfChars mark cs = [cs] := by
  induction cs with
  | nil => rfl
  | cons c cs ih =>
    obtain ⟨hc, hcs⟩ := not_or.1 (mt List.mem_cons.2 h)
    rw [piecesOfChars, if_neg (Ne.symm hc), ih hcs]

theorem intercalate_concat {sep p : List Char} {ps : List (List Char)} (hps : ps ≠ []) :
    sep.intercalate (ps ++ [p]) = sep.intercalate ps ++ sep ++ p := by
  induction ps with
  | nil => exact absurd rfl hps
  | cons q ps ih =>
    cases ps with
    | nil => simp [List.intercalate]
    | cons r rs =>
      have hrest := ih (List.cons_ne_nil r rs)
      simp only [List.cons_append, List.intercalate_cons_cons] at hrest ⊢
      rw [hrest]
      simp only [List.append_assoc]

theorem map_toList_pieces (s : String) :
    (pieces mark s).map String.toList = piecesOfChars mark s.toList := by
  simp [pieces, Function.comp_def]

theorem piecesOfChars_eq_concat_iff {cs p : List Char} {ps : List (List Char)} (hps : ps ≠ []) :
    piecesOfChars mark cs = ps ++ [p] ↔
      ∃ front, cs = front ++ mark :: p ∧ piecesOfChars mark front = ps ∧ mark ∉ p := by
  constructor
  · intro h
    have hpiece : p ∈ piecesOfChars mark cs := by simp [h]
    have hp : mark ∉ p := not_mem_of_mem_piecesOfChars hpiece
    have hcs : cs = [mark].intercalate ps ++ mark :: p := by
      have hjoin := intercalate_piecesOfChars mark cs
      rw [h, intercalate_concat hps] at hjoin
      simpa using hjoin.symm
    refine ⟨[mark].intercalate ps, hcs, ?_, hp⟩
    rw [hcs, piecesOfChars_append, piecesOfChars_of_not_mem hp] at h
    exact List.append_cancel_right h
  · rintro ⟨front, rfl, rfl, hp⟩
    rw [piecesOfChars_append, piecesOfChars_of_not_mem hp]

end Text

namespace DocumentKind

/-- The mark of the kind stands between the last two points of the file's name. -/
def Marked (kind : DocumentKind) (path : String) : Prop :=
  ∃ front back, fileName? path = some (front ++ "." ++ kind.mark ++ "." ++ back) ∧
    '.' ∉ back.toList

theorem point_not_mem_mark (kind : DocumentKind) : '.' ∉ kind.mark.toList := by
  cases kind <;> decide

theorem marks_iff_pieces {kind : DocumentKind} {path : String} :
    kind.marks path = true ↔ ∃ name ps p, fileName? path = some name ∧ ps ≠ [] ∧
      Text.piecesOfChars '.' name.toList = ps ++ [kind.mark.toList] ++ [p] := by
  constructor
  · intro h
    unfold marks at h
    split at h
    · rename_i back piece front rest hreversed
      obtain ⟨name, hname, hpieces⟩ := Option.map_eq_some_iff.1 hreversed
      refine ⟨name, (rest.reverse ++ [front]).map String.toList, back.toList, hname, by simp, ?_⟩
      rw [← beq_iff_eq.1 h]
      rw [← Text.map_toList_pieces, List.reverse_eq_iff.1 hpieces]
      simp
    · cases h
  · rintro ⟨name, ps, p, hname, hps, hpieces⟩
    obtain ⟨q, rest, hreversed⟩ := List.exists_cons_of_ne_nil (mt List.reverse_eq_nil_iff.1 hps)
    simp [marks, Text.pieces, hname, hpieces, ← List.map_reverse, hreversed]

theorem marks_iff {kind : DocumentKind} {path : String} :
    kind.marks path = true ↔ kind.Marked path := by
  rw [marks_iff_pieces]
  constructor
  · rintro ⟨name, ps, p, hname, hps, hpieces⟩
    obtain ⟨chars, hchars, hfront, hback⟩ :=
      (Text.piecesOfChars_eq_concat_iff (List.append_ne_nil_of_left_ne_nil hps _)).1 hpieces
    obtain ⟨front, rfl, -, -⟩ := (Text.piecesOfChars_eq_concat_iff hps).1 hfront
    refine ⟨String.ofList front, String.ofList p, ?_, by simpa using hback⟩
    rw [hname, Option.some_inj, ← String.toList_inj, hchars]
    simp
  · rintro ⟨front, back, hname, hback⟩
    refine ⟨_, Text.piecesOfChars '.' front.toList, back.toList, hname,
      Text.piecesOfChars_ne_nil _ _, ?_⟩
    have hmark := Text.piecesOfChars_of_not_mem kind.point_not_mem_mark
    simp [Text.piecesOfChars_append, hmark, Text.piecesOfChars_of_not_mem hback]

/-- The mark of a directory does not count, and neither does one without a point before it. -/
example : wave.marks "bay/calm.wv.json" = true ∧ vessel.marks "dir.vs/thing" = false ∧
    vessel.marks "vs.json" = false := by
  decide +kernel

end DocumentKind
end Swell

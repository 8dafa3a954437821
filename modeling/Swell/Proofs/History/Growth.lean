import Swell.History

/-!
# Growth of histories

A history grows by taking the next unread atom, once or many times over. Main statements: a grown
history starts with the states that were there, and each further state is the advance of the one
before it; a history that has grown from the start of some atoms holds the atoms taken and the
atoms unread, each once and in order.
-/
namespace Swell.History

theorem get?_eq_toList (h : History) (i : Nat) : h.get? i = h.toList[i]? := rfl

theorem get?_push (h : History) (s : State) (i : Nat) :
    (h.push s).get? i = if i = h.length then some s else h.get? i := by
  rw [get?_eq_toList, get?_eq_toList, toList_push, List.getElem?_append, length_toList]
  by_cases hi : i < h.length
  · rw [if_pos hi, if_neg (by omega)]
  · rw [if_neg hi]
    by_cases he : i = h.length
    · rw [if_pos he, he]
      simp
    · rw [if_neg he, List.getElem?_eq_none (by simp; omega),
        List.getElem?_eq_none (by rw [length_toList]; omega)]

theorem get?_eq_none_of_length_le {h : History} {i : Nat} (hi : h.length ≤ i) :
    h.get? i = none := by
  rw [get?_eq_toList]
  exact List.getElem?_eq_none (by rwa [length_toList])

@[simp] theorem length_push (h : History) (s : State) : (h.push s).length = h.length + 1 := rfl

theorem exists_length_eq_of_last? {h : History} {s : State} (hs : h.last? = some s) :
    ∃ n, h.length = n + 1 ∧ h.get? n = some s := by
  obtain ⟨states⟩ := h
  cases states with
  | nil => simp [last?] at hs
  | cons t states =>
    obtain rfl : t = s := by simpa [last?] using hs
    exact ⟨states.length, rfl, by simp [get?, toList]⟩

theorem consumed_push (h : History) (s : State) :
    (h.push s).consumed = h.consumed ++ s.taken.toList := by
  rw [consumed, toList_push, List.filterMap_append, consumed]
  cases ht : s.taken with
  | none => rw [List.filterMap_cons_none ht, List.filterMap_nil, Option.toList_none]
  | some atom => rw [List.filterMap_cons_some ht, List.filterMap_nil, Option.toList_some]

end Swell.History

namespace Swell

theorem State.advance?_eq_some_iff (s s' : State) :
    s.advance? = some s' ↔
      ∃ atom, s.remaining = atom :: s'.remaining ∧ s'.taken = some atom ∧
        s'.position = s.position + 1 := by
  obtain ⟨remaining, taken, position⟩ := s
  obtain ⟨remaining', taken', position'⟩ := s'
  cases remaining with
  | nil => simp [State.advance?]
  | cons atom rest =>
    simp only [State.advance?, Option.some.injEq, State.mk.injEq, List.cons.injEq]
    constructor
    · rintro ⟨rfl, rfl, rfl⟩
      exact ⟨atom, ⟨rfl, rfl⟩, rfl, rfl⟩
    · rintro ⟨a, ⟨rfl, rfl⟩, rfl, rfl⟩
      exact ⟨rfl, rfl, rfl⟩

namespace History

/-- The second history arises from the first by taking atoms, one after the other. -/
inductive Grows (h : History) : History → Prop where
  | refl : Grows h h
  | take {g : History} {s s' : State} :
    Grows h g → g.last? = some s → s.advance? = some s' → Grows h (g.push s')

variable {f g h : History}

theorem Grows.trans (hfg : f.Grows g) (hgh : g.Grows h) : f.Grows h := by
  induction hgh with
  | refl => exact hfg
  | take _ hs hs' ih => exact .take ih hs hs'

/-- No state that was there is changed or lost. -/
theorem Grows.isPrefix (hg : h.Grows g) : h.toList <+: g.toList := by
  induction hg with
  | refl => exact List.prefix_rfl
  | take _ _ _ ih =>
    rw [toList_push]
    exact ih.trans (List.prefix_append _ _)

/-- No state is invented: each new one is the advance of the state before it. -/
theorem Grows.advance_of_added (hg : h.Grows g) {i : Nat} {s' : State} (hi : h.length ≤ i)
    (hs' : g.get? i = some s') :
    ∃ j s, i = j + 1 ∧ g.get? j = some s ∧ s.advance? = some s' := by
  induction hg with
  | refl => simp [get?_eq_none_of_length_le hi] at hs'
  | @take g s t _ hs ht ih =>
    rw [get?_push] at hs'
    split at hs'
    · next he =>
      obtain ⟨n, hn, hget⟩ := exists_length_eq_of_last? hs
      obtain rfl : t = s' := by simpa using hs'
      refine ⟨n, s, by omega, ?_, ht⟩
      rw [get?_push, if_neg (by omega), hget]
    · next he =>
      obtain ⟨j, u, rfl, hget, hu⟩ := ih hs'
      have hj : j + 1 < g.length := by
        refine Nat.lt_of_not_le fun hle => ?_
        simp [get?_eq_none_of_length_le hle] at hs'
      refine ⟨j, u, rfl, ?_, hu⟩
      rw [get?_push, if_neg (by omega), hget]

/-- The history reads the atoms from their start. Its states are numbered from zero, and what was
taken, followed by what is unread, is what there was to read. -/
structure Reads (atoms : List Atom) (h : History) : Prop where
  position : ∀ i s, h.get? i = some s → s.position = i
  first : ∀ s, h.get? 0 = some s → s.taken = none
  unread : ∃ s, h.last? = some s ∧ h.consumed ++ s.remaining = atoms
  length : h.length = h.consumed.length + 1

variable {atoms : List Atom}

theorem reads_ofAtoms (atoms : List Atom) : (ofAtoms atoms).Reads atoms where
  position i s hs := by
    cases i with
    | zero =>
      obtain rfl : State.start atoms = s := by simpa [ofAtoms, get?, toList] using hs
      rfl
    | succ i => simp [ofAtoms, get?, toList] at hs
  first s hs := by
    obtain rfl : State.start atoms = s := by simpa [ofAtoms, get?, toList] using hs
    rfl
  unread := ⟨State.start atoms, rfl, rfl⟩
  length := rfl

theorem Reads.take (hr : h.Reads atoms) {s s' : State} (hs : h.last? = some s)
    (hs' : s.advance? = some s') : (h.push s').Reads atoms := by
  obtain ⟨n, hn, hget⟩ := exists_length_eq_of_last? hs
  obtain ⟨atom, hrest, htaken, hpos⟩ := (s.advance?_eq_some_iff s').1 hs'
  constructor
  · intro i t ht
    rw [get?_push] at ht
    split at ht
    · next he =>
      obtain rfl : s' = t := by simpa using ht
      rw [hpos, hr.position n s hget]
      omega
    · exact hr.position i t ht
  · intro t ht
    rw [get?_push, if_neg (by omega)] at ht
    exact hr.first t ht
  · obtain ⟨last, hlast, hall⟩ := hr.unread
    obtain rfl : s = last := by rw [hs] at hlast; simpa using hlast
    refine ⟨s', rfl, ?_⟩
    rw [consumed_push, htaken, ← hall, hrest]
    simp
  · rw [length_push, consumed_push, htaken, hr.length]
    simp

theorem Reads.grows (hr : h.Reads atoms) (hg : h.Grows g) : g.Reads atoms := by
  induction hg with
  | refl => exact hr
  | take _ hs hs' ih => exact ih.take hs hs'

theorem Reads.ne_empty (hr : h.Reads atoms) : h.isEmpty = false := by
  have hl := hr.length
  obtain ⟨states⟩ := h
  cases states with
  | nil => simp [History.length] at hl
  | cons s states => rfl

theorem Reads.consumed_eq_take (hr : h.Reads atoms) :
    h.consumed = atoms.take (h.length - 1) := by
  obtain ⟨s, -, hall⟩ := hr.unread
  rw [hr.length, ← hall, Nat.add_sub_cancel, List.take_left]

/-- A history is complete when it has one state more than there are atoms. -/
theorem Reads.isComplete_iff (hr : h.Reads atoms) :
    h.isComplete = true ↔ h.length = atoms.length + 1 := by
  obtain ⟨s, hs, hall⟩ := hr.unread
  have hlen := congrArg List.length hall
  rw [List.length_append] at hlen
  rw [isComplete, hs, Option.any_some, List.isEmpty_iff, ← List.length_eq_zero_iff, hr.length]
  omega

end History
end Swell

import Mathlib.Algebra.Group.Int.Defs
import Swell.Json.Reader
import Swell.Proofs.Text.Digits

/-!
# Documents read back

Main statements: what is written of a text, and of a whole number of at most 64 bits, reads back as
this text and this number, whatever stands behind it that no number can go on with. From this, by
induction over the value, a value without floating-point numbers reads back from its document.
-/
namespace Swell.Json
open Swell.Text

/-- What can stand behind a value in a document. -/
inductive IsEnd : List Char → Prop
  | nothing : IsEnd []
  | comma (rest : List Char) : IsEnd (',' :: rest)
  | lineEnd (rest : List Char) : IsEnd ('\n' :: rest)

theorem skipJsonBlanks_cons {c : Char} (hc : isJsonBlank c = false) (cs : List Char) :
    skipJsonBlanks (c :: cs) = c :: cs := by
  rw [skipJsonBlanks, List.dropWhile_cons_of_neg (by simp [hc])]

theorem length_skipJsonBlanks_le (cs : List Char) : (skipJsonBlanks cs).length ≤ cs.length :=
  (List.dropWhile_sublist _).length_le

theorem toList_indent (depth : Nat) :
    (indent depth).toList = '\n' :: List.replicate (2 * depth) ' ' := by
  simp [indent]

theorem skipJsonBlanks_indent (depth : Nat) (cs : List Char) :
    skipJsonBlanks ((indent depth).toList ++ cs) = skipJsonBlanks cs := by
  apply List.dropWhile_append_of_pos
  rw [toList_indent]
  intro c hc
  rcases List.mem_cons.1 hc with rfl | hc
  · rfl
  · rw [List.eq_of_mem_replicate hc]
    rfl

theorem readCode?_of_control {n : Nat} (hn : n < 32) (rest : List Char) :
    readCode? ((String.ofList (List.replicate (4 - (hexDigits n).length) '0') ++
      hexDigits n).toList ++ rest) = some (Char.ofNat n, rest) := by
  have hdigits : ∀ n < 32, (String.ofList (List.replicate (4 - (hexDigits n).length) '0') ++
      hexDigits n).toList = ['0', '0', Nat.digitChar (n / 16), Nat.digitChar (n % 16)] ∧
      hexadecimalValue? ['0', '0', Nat.digitChar (n / 16), Nat.digitChar (n % 16)] = some n := by
    decide +kernel
  obtain ⟨hlist, hvalue⟩ := hdigits n hn
  have hread : readHex4? ('0' :: '0' :: Nat.digitChar (n / 16) :: Nat.digitChar (n % 16) :: rest) =
      some (n, rest) := by
    rw [readHex4?, hvalue]
    rfl
  rw [hlist]
  change readCode? ('0' :: '0' :: Nat.digitChar (n / 16) :: Nat.digitChar (n % 16) :: rest) = _
  have hlow : ¬0xD800 ≤ n := by omega
  have hlow' : ¬0xDC00 ≤ n := by omega
  simp [readCode?, hread, hlow, hlow']

/-- A character is read back from what is written of it inside a text. -/
theorem readText?_jsonShown (c : Char) (fuel : Nat) (found rest : List Char) :
    readText? (fuel + 1) found ((jsonShown c).toList ++ rest) =
      readText? fuel (c :: found) rest := by
  unfold jsonShown
  split
  all_goals try rfl
  next hquote hslash _ _ _ _ _ =>
  split
  · next hc =>
    have hcode := readCode?_of_control hc rest
    rw [Char.ofNat_toNat] at hcode
    simp only [String.append_assoc]
    rw [String.toList_append, List.append_assoc]
    generalize (String.ofList _ ++ hexDigits c.toNat).toList ++ rest = ds at hcode ⊢
    change readText? (fuel + 1) found ('\\' :: 'u' :: ds) = _
    rw [readText?, hcode]
    rfl
  · next hc =>
    rw [String.toList_singleton]
    change readText? (fuel + 1) found (c :: rest) = _
    rw [readText?, if_neg hc]
    · exact hquote
    · exact hslash

theorem readText?_shown (cs found rest : List Char) {fuel : Nat} (hfuel : cs.length < fuel) :
    readText? fuel found ((String.join (cs.map jsonShown)).toList ++ '"' :: rest) =
      some (String.ofList (found.reverse ++ cs), rest) := by
  induction cs generalizing found fuel with
  | nil =>
    cases fuel with
    | zero => cases hfuel
    | succ fuel =>
      rw [List.append_nil]
      rfl
  | cons c cs ih =>
    cases fuel with
    | zero => cases hfuel
    | succ fuel =>
      have hjoin : (String.join ((c :: cs).map jsonShown)).toList =
          (jsonShown c).toList ++ (String.join (cs.map jsonShown)).toList := by
        simp
      rw [hjoin, List.append_assoc, readText?_jsonShown, ih _ (Nat.lt_of_succ_lt_succ hfuel)]
      simp

theorem length_le_shown (cs : List Char) :
    cs.length ≤ (String.join (cs.map jsonShown)).toList.length := by
  have hone : ∀ c : Char, 1 ≤ (jsonShown c).toList.length := by
    intro c
    unfold jsonShown
    split
    all_goals try exact (by decide : 1 ≤ 2)
    split
    · rw [String.append_assoc, String.toList_append, List.length_append]
      exact Nat.le_add_right_of_le (by decide)
    · simp
  induction cs with
  | nil => exact Nat.zero_le _
  | cons c cs ih =>
    have hc := hone c
    simp only [List.map_cons, String.join_cons, String.toList_append, List.length_append,
      List.length_cons]
    omega

/-- What stands behind an opening quote is read as a text up to its closing one. -/
theorem readText?_quoted (s : String) {ds rest : List Char}
    (hds : ds = (String.join (s.toList.map jsonShown)).toList ++ '"' :: rest) :
    readText? (ds.length + 1) [] ds = some (s, rest) := by
  have hlength := length_le_shown s.toList
  rw [hds, readText?_shown]
  · simp
  · rw [List.length_append]
    omega

theorem le_ofDigitChars (ds : List Char) (n : Nat) : n ≤ Nat.ofDigitChars 10 ds n := by
  induction ds generalizing n with
  | nil => exact Nat.le_refl n
  | cons c ds ih =>
    rw [Nat.ofDigitChars_cons]
    exact Nat.le_trans (by omega) (ih _)

theorem gather_append {ds rest : List Char} (hds : ∀ c ∈ ds, c.isDigit = true)
    (hrest : IsEnd rest) {significand : Nat} (used : Nat)
    (hlt : Nat.ofDigitChars 10 ds significand < Nat.pow 2 64) :
    gather significand used (ds ++ rest) =
      (Nat.ofDigitChars 10 ds significand, used + ds.length, rest) := by
  induction ds generalizing significand used with
  | nil => cases hrest <;> rfl
  | cons c ds ih =>
    obtain ⟨hc, hds⟩ := List.forall_mem_cons.1 hds
    have hvalue : Nat.ofDigitChars 10 (c :: ds) significand =
        Nat.ofDigitChars 10 ds (significand * 10 + digitValue c) := by
      rw [Nat.ofDigitChars_cons, Nat.mul_comm]
      rfl
    rw [hvalue] at hlt ⊢
    have hnext : significand * 10 + digitValue c < Nat.pow 2 64 :=
      Nat.lt_of_le_of_lt (le_ofDigitChars ds _) hlt
    rw [List.cons_append, gather]
    simp only [hc, hnext, decide_true, Bool.and_self, if_true]
    rw [ih hds (used + 1) hlt, List.length_cons, Nat.add_assoc, Nat.add_comm 1]

/-- The digits of a number are read to their end, and the number goes on with nothing. -/
theorem readMagnitude?_toDigits (negative : Bool) {n : Nat} (hn : n < Nat.pow 2 64)
    {rest : List Char} (hrest : IsEnd rest) :
    readMagnitude? negative (Nat.toDigits 10 n ++ rest) =
      readMagnitude?.whole negative rest n 0 := by
  have hvalue : Nat.ofDigitChars 10 (Nat.toDigits 10 n) 0 < Nat.pow 2 64 := by
    rwa [Nat.ofDigitChars_ten_toDigits]
  have hgather := gather_append
    (fun c hc => Nat.isDigit_of_mem_toDigits (by decide) (by decide) hc) hrest 0 hvalue
  have hlength : 0 < (Nat.toDigits 10 n).length := List.length_pos_iff.2 Nat.toDigits_ne_nil
  have htake : rest.takeWhile Char.isDigit = [] := by cases hrest <;> rfl
  have hdrop : rest.dropWhile Char.isDigit = rest := by cases hrest <;> rfl
  -- only zero itself starts with a zero
  have hzero : ((Nat.toDigits 10 n ++ rest).head? == some '0' &&
      decide ((Nat.toDigits 10 n).length ≠ 1)) = false := by
    rcases Nat.eq_zero_or_pos n with rfl | hpos
    · rfl
    · have hhead := head?_toDigits_ne_zero hpos
      rw [List.head?_append_of_ne_nil _ Nat.toDigits_ne_nil]
      simp [hhead]
  rw [Nat.ofDigitChars_ten_toDigits, Nat.zero_add] at hgather
  simp only [readMagnitude?, hgather, htake, hdrop, List.length_nil, Nat.add_zero, hzero]
  rw [if_neg (by simp)]
  cases hrest <;> rfl

theorem ne_of_isDigit {c d : Char} (hc : c.isDigit = true) (hd : d.isDigit = false) : c ≠ d := by
  rintro rfl
  rw [hc] at hd
  cases hd

theorem readValue?_of_digit {c : Char} (hc : c.isDigit = true) (depth fuel : Nat)
    {cs ds : List Char} (hcs : skipJsonBlanks cs = c :: ds) :
    readValue? depth (fuel + 1) cs = readMagnitude? false (c :: ds) := by
  have hne := fun d => ne_of_isDigit (d := d) hc
  rw [readValue?, hcs]
  simp only [List.cons.injEq, hne 'n' rfl, hne 't' rfl, hne 'f' rfl, hne '"' rfl, hne '-' rfl,
    hne '[' rfl, hne '\x7b' rfl, false_and, imp_self, implies_true]

/-- A value without floating-point numbers and without numbers beyond 64 bits, in which values
stand at most so deep inside one another. -/
inductive Plain : Nat → Json → Prop
  | null (level : Nat) : Plain level .null
  | bool (level : Nat) (b : Bool) : Plain level (.bool b)
  | whole (level : Nat) {n : Int} (hlow : -2 ^ 63 ≤ n) (hhigh : n < 2 ^ 64) : Plain level (.whole n)
  | string (level : Nat) (s : String) : Plain level (.string s)
  | array {level : Nat} {items : List Json} (h : ∀ item ∈ items, Plain level item) :
    Plain (level + 1) (.array items)
  | object {level : Nat} {fields : List (String × Json)}
    (h : ∀ field ∈ fields, Plain level field.2) :
    Plain (level + 1) (.object fields)

/-- The value reads back where its text stands behind blanks, no deeper than allowed, and with
enough fuel for the text. -/
def ReadsBack (level : Nat) (j : Json) : Prop :=
  ∀ {depth fuel indentation : Nat} {cs rest : List Char}, level < depth → 2 * cs.length < fuel →
    IsEnd rest → skipJsonBlanks cs = (j.prettyAt indentation).toList ++ rest →
      readValue? depth fuel cs = some (j, rest)

/-- A value needs fuel for itself, on top of the fuel for its text. -/
theorem readsBack_of_succ {level : Nat} {j : Json}
    (h : ∀ {depth fuel indentation : Nat} {cs rest : List Char}, level < depth →
      2 * cs.length ≤ fuel → IsEnd rest →
        skipJsonBlanks cs = (j.prettyAt indentation).toList ++ rest →
          readValue? depth (fuel + 1) cs = some (j, rest)) :
    ReadsBack level j := by
  intro depth fuel indentation cs rest hdepth hfuel hrest hcs
  cases fuel with
  | zero => cases hfuel
  | succ fuel => exact h hdepth (Nat.le_of_lt_succ hfuel) hrest hcs

theorem exists_toDigits_eq_cons (n : Nat) :
    ∃ c ds, Nat.toDigits 10 n = c :: ds ∧ c.isDigit = true := by
  obtain ⟨c, ds, hds⟩ := List.exists_cons_of_ne_nil (Nat.toDigits_ne_nil (n := n) (b := 10))
  have hmem : c ∈ Nat.toDigits 10 n := hds ▸ List.mem_cons_self
  exact ⟨c, ds, hds, Nat.isDigit_of_mem_toDigits (by decide) (by decide) hmem⟩

theorem toList_prettyAt_natCast (indentation n : Nat) :
    (prettyAt indentation (.whole n)).toList = Nat.toDigits 10 n := by
  rw [prettyAt, Int.toString_eq_repr, Int.repr_eq_if, if_pos (Int.natCast_nonneg n),
    Int.toNat_natCast, Nat.toList_repr]

theorem toList_prettyAt_neg (indentation : Nat) {n : Nat} (hn : 0 < n) :
    (prettyAt indentation (.whole (-n))).toList = '-' :: Nat.toDigits 10 n := by
  rw [prettyAt, Int.toString_eq_repr, Int.repr_eq_if, if_neg (by omega), Int.neg_neg,
    Int.toNat_natCast, String.toList_append, Nat.toList_repr]
  rfl

theorem readsBack_natCast (level : Nat) {n : Nat} (hn : n < Nat.pow 2 64) :
    ReadsBack level (.whole n) := by
  refine readsBack_of_succ fun {depth fuel indentation cs rest} _ _ hrest hcs => ?_
  obtain ⟨c, ds, hds, hc⟩ := exists_toDigits_eq_cons n
  rw [toList_prettyAt_natCast, hds, List.cons_append] at hcs
  rw [readValue?_of_digit hc depth fuel hcs, ← List.cons_append, ← hds,
    readMagnitude?_toDigits false hn hrest]
  rfl

theorem readsBack_neg (level : Nat) {n : Nat} (hpos : 0 < n) (hn : n ≤ Nat.pow 2 63) :
    ReadsBack level (.whole (-n)) := by
  refine readsBack_of_succ fun {depth fuel indentation cs rest} _ _ hrest hcs => ?_
  have hlt : n < Nat.pow 2 64 := Nat.lt_of_le_of_lt hn (by decide)
  have hsmall : ¬(decide (n = 0) || decide (Nat.pow 2 63 < n)) = true := by
    rw [Bool.or_eq_true, decide_eq_true_eq, decide_eq_true_eq]
    omega
  rw [toList_prettyAt_neg indentation hpos, List.cons_append] at hcs
  rw [readValue?, hcs]
  change readMagnitude? true (Nat.toDigits 10 n ++ rest) = _
  rw [readMagnitude?_toDigits true hlt hrest, readMagnitude?.whole]
  simp [hsmall]

theorem readsBack_whole (level : Nat) {n : Int} (hlow : -2 ^ 63 ≤ n) (hhigh : n < 2 ^ 64) :
    ReadsBack level (.whole n) := by
  by_cases hn : 0 ≤ n
  · obtain ⟨m, rfl⟩ := Int.eq_ofNat_of_zero_le hn
    have hm : m < 2 ^ 64 := by omega
    exact readsBack_natCast level hm
  · obtain ⟨m, rfl⟩ := Int.exists_eq_neg_ofNat (Int.le_of_lt (Int.not_le.1 hn))
    have hm : m ≤ 2 ^ 63 := by omega
    exact readsBack_neg level (by omega) hm

theorem toList_jsonQuoted_append (s : String) (rest : List Char) :
    (jsonQuoted s).toList ++ rest =
      '"' :: ((String.join (s.toList.map jsonShown)).toList ++ '"' :: rest) := by
  simp [jsonQuoted]

theorem skipJsonBlanks_jsonQuoted (s : String) (rest : List Char) :
    skipJsonBlanks ((jsonQuoted s).toList ++ rest) = (jsonQuoted s).toList ++ rest := by
  rw [toList_jsonQuoted_append, skipJsonBlanks_cons rfl]

theorem readsBack_string (level : Nat) (s : String) : ReadsBack level (.string s) := by
  refine readsBack_of_succ fun {depth fuel indentation cs rest} _ _ _ hcs => ?_
  rw [prettyAt, toList_jsonQuoted_append] at hcs
  rw [readValue?, hcs]
  change (readText? (_ + 1) [] _).map _ = _
  rw [readText?_quoted s rfl]
  rfl

/-- No text of a value starts with a blank or with the end of an array. -/
theorem Plain.exists_head {level : Nat} {j : Json} (h : Plain level j) (indentation : Nat) :
    ∃ c cs, (j.prettyAt indentation).toList = c :: cs ∧ isJsonBlank c = false ∧ c ≠ ']' := by
  cases h with
  | null => exact ⟨'n', "ull".toList, by rw [prettyAt]; rfl, rfl, by decide⟩
  | bool level b =>
    cases b with
    | false => exact ⟨'f', "alse".toList, by rw [prettyAt]; rfl, rfl, by decide⟩
    | true => exact ⟨'t', "rue".toList, by rw [prettyAt]; rfl, rfl, by decide⟩
  | @whole level n hlow hhigh =>
    by_cases hn : 0 ≤ n
    · obtain ⟨m, rfl⟩ := Int.eq_ofNat_of_zero_le hn
      obtain ⟨c, ds, hds, hc⟩ := exists_toDigits_eq_cons m
      have hne := fun d => ne_of_isDigit (d := d) hc
      refine ⟨c, ds, (toList_prettyAt_natCast indentation m).trans hds, ?_, hne ']' rfl⟩
      simp [isJsonBlank, hne ' ' rfl, hne '\n' rfl, hne '\t' rfl, hne '\r' rfl]
    · obtain ⟨m, rfl⟩ := Int.exists_eq_neg_ofNat (Int.le_of_lt (Int.not_le.1 hn))
      exact ⟨'-', _, toList_prettyAt_neg indentation (by omega), rfl, by decide⟩
  | string level s => exact ⟨'"', _, by simp [prettyAt, jsonQuoted]; rfl, rfl, by decide⟩
  | @array level items h =>
    cases items with
    | nil => exact ⟨'[', [']'], by rw [prettyAt]; rfl, rfl, by decide⟩
    | cons item items => exact ⟨'[', _, by simp [prettyAt]; rfl, rfl, by decide⟩
  | @object level fields h =>
    cases fields with
    | nil => exact ⟨'\x7b', ['\x7d'], by rw [prettyAt]; rfl, rfl, by decide⟩
    | cons field fields => exact ⟨'\x7b', _, by simp [prettyAt]; rfl, rfl, by decide⟩

theorem Plain.skipJsonBlanks_append {level : Nat} {j : Json} (h : Plain level j)
    (indentation : Nat) (rest : List Char) :
    skipJsonBlanks ((j.prettyAt indentation).toList ++ rest) =
      (j.prettyAt indentation).toList ++ rest := by
  obtain ⟨c, cs, hcs, hc, -⟩ := h.exists_head indentation
  rw [hcs, List.cons_append, skipJsonBlanks_cons hc]

theorem toList_prettyItems_cons (indentation : Nat) (item : Json) (items : List Json)
    (rest : List Char) :
    (prettyItems indentation (item :: items)).toList ++ rest =
      ',' :: ((indent indentation).toList ++ ((item.prettyAt indentation).toList ++
        ((prettyItems indentation items).toList ++ rest))) := by
  simp [prettyItems]

theorem toList_prettyFields_cons (indentation : Nat) (name : String) (value : Json)
    (fields : List (String × Json)) (rest : List Char) :
    (prettyFields indentation ((name, value) :: fields)).toList ++ rest =
      ',' :: ((indent indentation).toList ++ ((jsonQuoted name).toList ++
        (':' :: ' ' :: ((value.prettyAt indentation).toList ++
          ((prettyFields indentation fields).toList ++ rest))))) := by
  simp [prettyFields]

theorem isEnd_indent (closing : Nat) (rest : List Char) :
    IsEnd ((indent closing).toList ++ rest) := by
  rw [toList_indent]
  exact .lineEnd _

theorem isEnd_prettyItems (indentation closing : Nat) (items : List Json) (rest : List Char) :
    IsEnd ((prettyItems indentation items).toList ++ ((indent closing).toList ++ rest)) := by
  cases items with
  | nil =>
    rw [prettyItems]
    exact isEnd_indent closing rest
  | cons item items =>
    rw [toList_prettyItems_cons]
    exact .comma _

theorem isEnd_prettyFields (indentation closing : Nat) (fields : List (String × Json))
    (rest : List Char) :
    IsEnd ((prettyFields indentation fields).toList ++ ((indent closing).toList ++ rest)) := by
  cases fields with
  | nil =>
    rw [prettyFields]
    exact isEnd_indent closing rest
  | cons field fields =>
    rw [toList_prettyFields_cons]
    exact .comma _

theorem readItems?_item {level depth fuel indentation : Nat} {item : Json} {cs after : List Char}
    (h : ReadsBack level item) (hdepth : level < depth) (hfuel : 2 * cs.length < fuel)
    (hafter : IsEnd after) (hcs : skipJsonBlanks cs = (item.prettyAt indentation).toList ++ after)
    (found : List Json) :
    readItems? depth (fuel + 1) found cs =
      match skipJsonBlanks after with
      | ',' :: rest => readItems? depth fuel (item :: found) rest
      | ']' :: rest => some ((item :: found).reverse, rest)
      | _ => none := by
  rw [readItems?, h hdepth hfuel hafter hcs]
  rfl

/-- The items of an array are read up to its end. -/
theorem readItems?_pretty {level : Nat} {item : Json} {items : List Json}
    (h : ∀ i ∈ item :: items, Plain level i ∧ ReadsBack level i)
    {depth fuel indentation closing : Nat} {cs rest : List Char} (found : List Json)
    (hdepth : level < depth) (hfuel : 2 * cs.length < fuel)
    (hcs : skipJsonBlanks cs = (item.prettyAt indentation).toList ++
      ((prettyItems indentation items).toList ++ ((indent closing).toList ++ ']' :: rest))) :
    readItems? depth (fuel + 1) found cs = some (found.reverse ++ item :: items, rest) := by
  induction items generalizing item found fuel cs with
  | nil =>
    rw [readItems?_item (h _ List.mem_cons_self).2 hdepth hfuel (isEnd_prettyItems _ _ _ _) hcs,
      prettyItems, String.toList_empty, List.nil_append, skipJsonBlanks_indent,
      skipJsonBlanks_cons rfl]
    simp
  | cons next items ih =>
    obtain ⟨⟨-, hitem⟩, hitems⟩ := List.forall_mem_cons.1 h
    have hnext := (hitems next List.mem_cons_self).1.skipJsonBlanks_append indentation
    have hlength := length_skipJsonBlanks_le cs
    rw [readItems?_item hitem hdepth hfuel (isEnd_prettyItems _ _ _ _) hcs,
      toList_prettyItems_cons, skipJsonBlanks_cons rfl]
    rw [hcs, toList_prettyItems_cons, List.length_append, List.length_cons] at hlength
    obtain ⟨fuel, rfl⟩ : ∃ k, fuel = k + 1 := Nat.exists_eq_succ_of_ne_zero (by omega)
    simp only
    rw [ih hitems (item :: found) ?_ ((skipJsonBlanks_indent indentation _).trans (hnext _))]
    · simp
    · omega

theorem readFields?_field {level depth fuel indentation : Nat} {name : String} {value : Json}
    {cs after : List Char} (hplain : Plain level value) (h : ReadsBack level value)
    (hdepth : level < depth) (hfuel : 2 * cs.length < fuel) (hafter : IsEnd after)
    (hcs : skipJsonBlanks cs = (jsonQuoted name).toList ++
      (':' :: ' ' :: ((value.prettyAt indentation).toList ++ after)))
    (found : List (String × Json)) :
    readFields? depth (fuel + 1) found cs =
      match skipJsonBlanks after with
      | ',' :: rest => readFields? depth fuel ((name, value) :: found) rest
      | '\x7d' :: rest => some (((name, value) :: found).reverse, rest)
      | _ => none := by
  have hspace : skipJsonBlanks (' ' :: ((value.prettyAt indentation).toList ++ after)) =
      (value.prettyAt indentation).toList ++ after :=
    hplain.skipJsonBlanks_append indentation after
  have hlength := length_skipJsonBlanks_le cs
  rw [hcs, List.length_append, List.length_cons] at hlength
  have hread : readValue? depth fuel (' ' :: ((value.prettyAt indentation).toList ++ after)) =
      some (value, after) :=
    h hdepth (by omega) hafter hspace
  rw [toList_jsonQuoted_append] at hcs
  rw [readFields?, hcs]
  simp only [readText?_quoted name rfl, Option.bind_eq_bind, Option.bind_some,
    skipJsonBlanks_cons (c := ':') rfl]
  rw [hread]
  rfl

/-- The fields of an object are read up to its end. -/
theorem readFields?_pretty {level : Nat} {name : String} {value : Json}
    {fields : List (String × Json)}
    (h : ∀ field ∈ (name, value) :: fields, Plain level field.2 ∧ ReadsBack level field.2)
    {depth fuel indentation closing : Nat} {cs rest : List Char} (found : List (String × Json))
    (hdepth : level < depth) (hfuel : 2 * cs.length < fuel)
    (hcs : skipJsonBlanks cs = (jsonQuoted name).toList ++
      (':' :: ' ' :: ((value.prettyAt indentation).toList ++
        ((prettyFields indentation fields).toList ++
          ((indent closing).toList ++ '\x7d' :: rest))))) :
    readFields? depth (fuel + 1) found cs =
      some (found.reverse ++ (name, value) :: fields, rest) := by
  induction fields generalizing name value found fuel cs with
  | nil =>
    obtain ⟨hplain, hvalue⟩ := h _ List.mem_cons_self
    rw [readFields?_field hplain hvalue hdepth hfuel (isEnd_prettyFields _ _ _ _) hcs,
      prettyFields, String.toList_empty, List.nil_append, skipJsonBlanks_indent,
      skipJsonBlanks_cons rfl]
    simp
  | cons next fields ih =>
    obtain ⟨⟨hplain, hvalue⟩, hfields⟩ := List.forall_mem_cons.1 h
    have hlength := length_skipJsonBlanks_le cs
    rw [readFields?_field hplain hvalue hdepth hfuel (isEnd_prettyFields _ _ _ _) hcs,
      toList_prettyFields_cons, skipJsonBlanks_cons rfl]
    rw [hcs, toList_prettyFields_cons, List.length_append, List.length_cons] at hlength
    obtain ⟨fuel, rfl⟩ : ∃ k, fuel = k + 1 := Nat.exists_eq_succ_of_ne_zero (by omega)
    simp only
    rw [ih hfields ((name, value) :: found) ?_
      ((skipJsonBlanks_indent indentation _).trans (skipJsonBlanks_jsonQuoted next.1 _))]
    · simp
    · simp only [List.length_append, List.length_cons] at hlength ⊢
      omega

theorem readValue?_of_bracket {depth : Nat} (hdepth : 1 < depth) (fuel : Nat) {cs ds : List Char}
    (hcs : skipJsonBlanks cs = '[' :: ds) (hds : (skipJsonBlanks ds).head? ≠ some ']') :
    readValue? depth (fuel + 1) cs =
      (readItems? (depth - 1) fuel [] (skipJsonBlanks ds)).map
        fun (items, rest) => (.array items, rest) := by
  rw [readValue?, hcs]
  simp only [if_neg (Nat.not_le.2 hdepth)]
  split
  · next heq =>
    rw [heq] at hds
    exact absurd rfl hds
  · rfl

theorem readValue?_of_brace {depth : Nat} (hdepth : 1 < depth) (fuel : Nat) {cs ds : List Char}
    (hcs : skipJsonBlanks cs = '\x7b' :: ds) (hds : (skipJsonBlanks ds).head? ≠ some '\x7d') :
    readValue? depth (fuel + 1) cs =
      (readFields? (depth - 1) fuel [] (skipJsonBlanks ds)).map
        fun (fields, rest) => (.object fields, rest) := by
  rw [readValue?, hcs]
  simp only [if_neg (Nat.not_le.2 hdepth)]
  split
  · next heq =>
    rw [heq] at hds
    exact absurd rfl hds
  · rfl

theorem readsBack_array {level : Nat} {items : List Json}
    (h : ∀ item ∈ items, Plain level item ∧ ReadsBack level item) :
    ReadsBack (level + 1) (.array items) := by
  refine readsBack_of_succ fun {depth fuel indentation cs rest} hdepth hfuel hrest hcs => ?_
  have hdeep : 1 < depth := by omega
  cases items with
  | nil =>
    rw [prettyAt] at hcs
    rw [readValue?, hcs]
    change (if depth ≤ 1 then none else some (Json.array [], rest)) = _
    rw [if_neg (Nat.not_le.2 hdeep)]
  | cons item items =>
    have hlist : ((Json.array (item :: items)).prettyAt indentation).toList ++ rest =
        '[' :: ((indent (indentation + 1)).toList ++ ((item.prettyAt (indentation + 1)).toList ++
          ((prettyItems (indentation + 1) items).toList ++
            ((indent indentation).toList ++ ']' :: rest)))) := by
      simp [prettyAt]
    have hplain := (h item List.mem_cons_self).1
    have hskip := hplain.skipJsonBlanks_append (indentation + 1)
    obtain ⟨c, ds, hhead, -, hclose⟩ := hplain.exists_head (indentation + 1)
    have hlength := length_skipJsonBlanks_le cs
    rw [hlist] at hcs
    rw [hcs, List.length_cons, List.length_append] at hlength
    obtain ⟨fuel, rfl⟩ : ∃ k, fuel = k + 1 := Nat.exists_eq_succ_of_ne_zero (by omega)
    rw [readValue?_of_bracket hdeep _ hcs, skipJsonBlanks_indent, hskip,
      readItems?_pretty h [] (by omega) ?_ (hskip _)]
    · rfl
    · omega
    · rw [skipJsonBlanks_indent, hskip, hhead]
      simpa using hclose

theorem readsBack_object {level : Nat} {fields : List (String × Json)}
    (h : ∀ field ∈ fields, Plain level field.2 ∧ ReadsBack level field.2) :
    ReadsBack (level + 1) (.object fields) := by
  refine readsBack_of_succ fun {depth fuel indentation cs rest} hdepth hfuel hrest hcs => ?_
  have hdeep : 1 < depth := by omega
  cases fields with
  | nil =>
    rw [prettyAt] at hcs
    rw [readValue?, hcs]
    change (if depth ≤ 1 then none else some (Json.object [], rest)) = _
    rw [if_neg (Nat.not_le.2 hdeep)]
  | cons field fields =>
    obtain ⟨name, value⟩ := field
    have hlist : ((Json.object ((name, value) :: fields)).prettyAt indentation).toList ++ rest =
        '\x7b' :: ((indent (indentation + 1)).toList ++ ((jsonQuoted name).toList ++
          (':' :: ' ' :: ((value.prettyAt (indentation + 1)).toList ++
            ((prettyFields (indentation + 1) fields).toList ++
              ((indent indentation).toList ++ '\x7d' :: rest)))))) := by
      simp [prettyAt]
    have hskip := skipJsonBlanks_jsonQuoted name
    have hlength := length_skipJsonBlanks_le cs
    rw [hlist] at hcs
    rw [hcs, List.length_cons, List.length_append] at hlength
    obtain ⟨fuel, rfl⟩ : ∃ k, fuel = k + 1 := Nat.exists_eq_succ_of_ne_zero (by omega)
    rw [readValue?_of_brace hdeep _ hcs, skipJsonBlanks_indent, hskip,
      readFields?_pretty h [] (by omega) ?_ (hskip _)]
    · rfl
    · omega
    · rw [skipJsonBlanks_indent, hskip, toList_jsonQuoted_append]
      simp

/-- The induction is over the value; all that its parts need is fuel for the text that is left. -/
theorem Plain.readsBack {level : Nat} {j : Json} (h : Plain level j) : ReadsBack level j := by
  induction h with
  | null level =>
    refine readsBack_of_succ fun {depth fuel indentation cs rest} _ _ _ hcs => ?_
    rw [prettyAt] at hcs
    rw [readValue?, hcs]
    rfl
  | bool level b =>
    refine readsBack_of_succ fun {depth fuel indentation cs rest} _ _ _ hcs => ?_
    rw [prettyAt] at hcs
    rw [readValue?, hcs]
    cases b with
    | false => rfl
    | true => rfl
  | whole level hlow hhigh => exact readsBack_whole level hlow hhigh
  | string level s => exact readsBack_string level s
  | array h ih => exact readsBack_array fun item hitem => ⟨h item hitem, ih item hitem⟩
  | object h ih => exact readsBack_object fun field hfield => ⟨h field hfield, ih field hfield⟩

/-- A value without floating-point numbers reads back from its document. -/
theorem Plain.read?_pretty {level : Nat} {j : Json} (h : Plain level j)
    (hlevel : level < depthLimit) :
    read? j.pretty = some j := by
  have hskip := h.skipJsonBlanks_append 0 []
  rw [List.append_nil] at hskip
  have hread := h.readsBack hlevel (Nat.lt_add_of_pos_right (Nat.zero_lt_two)) .nothing
    (hskip.trans (List.append_nil _).symm)
  rw [read?, pretty]
  simp only [hread]
  rfl

end Swell.Json

import DiceCup.Proofs.Json.Scalars
import Mathlib.Data.List.DropRight
import Mathlib.Data.List.Forall2

/-!
# Layout — where the blanks stand does not matter

A layout of a value is its text with any blanks between the parts.  Reading finds the value of each
of its layouts, and both writers produce layouts, so what they write is read back.  The count of
steps suffices since every step but a list's first takes a character.
-/

namespace DiceCup.Json

open DiceCup.Text

/-! ## 1. Layouts -/

def Blanks (cs : List Char) : Prop := ∀ c ∈ cs, isSpace c = true

/-- A text of items with commas between them and any blanks around each. -/
inductive Listed {α : Type} (R : α → List Char → Prop) : List α → List Char → Prop where
  | last {before behind cs : List Char} {a : α} (hbefore : Blanks before)
    (hbehind : Blanks behind) (h : R a cs) : Listed R [a] (before ++ (cs ++ behind))
  | more {before behind cs rest : List Char} {a : α} {items : List α} (hbefore : Blanks before)
    (hbehind : Blanks behind) (h : R a cs) (hrest : Listed R items rest) :
    Listed R (a :: items) (before ++ (cs ++ (behind ++ ',' :: rest)))

mutual

/-- A text of a value, without blanks at its ends. -/
inductive LaidOut : Json → List Char → Prop where
  | null : LaidOut .null "null".toList
  | bool (b : Bool) : LaidOut (.bool b) (writeScalar (.bool b))
  | number {n : Numeral} (hdigits : ∀ d ∈ n.fraction, d.isDigit = true) :
    LaidOut (.number n) (writeNumeral n)
  | text (s : String) : LaidOut (.text (some s)) (writeString s)
  | noItems {blank : List Char} (hblank : Blanks blank) :
    LaidOut (.array []) ('[' :: (blank ++ [']']))
  | items {items : List Json} {cs : List Char} (h : Listed LaidOut items cs) :
    LaidOut (.array items) ('[' :: (cs ++ [']']))
  | noMembers {blank : List Char} (hblank : Blanks blank) :
    LaidOut (.object []) ('\x7b' :: (blank ++ ['\x7d']))
  | members {members : List (Option String × Json)} {cs : List Char}
    (h : Listed MemberLaidOut members cs) : LaidOut (.object members) ('\x7b' :: (cs ++ ['\x7d']))

inductive MemberLaidOut : Option String × Json → List Char → Prop where
  | mk {left right cs : List Char} (key : String) {v : Json} (hleft : Blanks left)
    (hright : Blanks right) (h : LaidOut v cs) :
    MemberLaidOut (some key, v) (writeString key ++ (left ++ ':' :: (right ++ cs)))

end

/-! ## 2. Blanks -/

theorem skipSpace_append {blank : List Char} (h : Blanks blank) (cs : List Char) :
    skipSpace (blank ++ cs) = skipSpace cs := List.dropWhile_append_of_pos h

theorem skipSpace_cons {c : Char} (h : isSpace c = false) (cs : List Char) :
    skipSpace (c :: cs) = c :: cs := by
  unfold skipSpace
  rw [List.dropWhile_cons_of_neg (by rw [h]; exact Bool.false_ne_true)]

theorem skipSpace_behind {blank : List Char} {c : Char} (h : Blanks blank)
    (hc : isSpace c = false) (cs : List Char) : skipSpace (blank ++ c :: cs) = c :: cs := by
  rw [skipSpace_append h, skipSpace_cons hc]

theorem skipSpace_skipSpace (cs : List Char) : skipSpace (skipSpace cs) = skipSpace cs :=
  List.dropWhile_idempotent isSpace cs

theorem readKey_skipSpace (cs : List Char) : readKey (skipSpace cs) = readKey cs := by
  unfold readKey
  rw [skipSpace_skipSpace]

/-- Blanks in front of a value make no difference to its reading. -/
theorem readValue_congr {cs ds : List Char} (h : skipSpace cs = skipSpace ds) (fuel : Nat) :
    readValue fuel cs = readValue fuel ds := by
  cases fuel with
  | zero => rfl
  | succ fuel => rw [readValue, readValue, h]

theorem readItems_skipSpace (fuel : Nat) (cs : List Char) :
    readItems fuel (skipSpace cs) = readItems fuel cs := by
  cases fuel with
  | zero => rfl
  | succ fuel => rw [readItems, readItems, readValue_congr (skipSpace_skipSpace cs)]

theorem readMembers_skipSpace (fuel : Nat) (cs : List Char) :
    readMembers fuel (skipSpace cs) = readMembers fuel cs := by
  cases fuel with
  | zero => rfl
  | succ fuel => rw [readMembers, readMembers, readKey_skipSpace]

theorem Blanks.ends {blank rest : List Char} (h : Blanks blank) (hrest : Ends rest) :
    Ends (blank ++ rest) := by
  cases blank with
  | nil => exact hrest
  | cons b blank =>
    intro d hd
    cases hd
    have hb : isSpace b = true := h b List.mem_cons_self
    simp only [isSpace, Bool.or_eq_true, decide_eq_true_eq] at hb
    rcases hb with ((rfl | rfl) | rfl) | rfl <;> decide

theorem Blanks.ends_cons {blank : List Char} (h : Blanks blank) {c : Char}
    (hc : c = ',' ∨ c = ']' ∨ c = '\x7d') (cs : List Char) : Ends (blank ++ c :: cs) := by
  apply h.ends
  intro d hd
  cases hd
  rcases hc with rfl | rfl | rfl <;> decide

/-! ## 3. The front of a layout -/

/-- A layout begins with something that is neither blank nor a closing bracket. -/
theorem LaidOut.front {v : Json} {cs : List Char} (h : LaidOut v cs) :
    ∃ c tail, cs = c :: tail ∧ isSpace c = false ∧ c ≠ ']' := by
  cases h with
  | null => exact ⟨'n', _, rfl, by decide, by decide⟩
  | bool b =>
    cases b with
    | true => exact ⟨'t', _, rfl, by decide, by decide⟩
    | false => exact ⟨'f', _, rfl, by decide, by decide⟩
  | text s => exact ⟨'"', _, rfl, by decide, by decide⟩
  | noItems | items => exact ⟨'[', _, rfl, by decide, by decide⟩
  | noMembers | members => exact ⟨'\x7b', _, rfl, by decide, by decide⟩
  | @number n hdigits =>
    obtain ⟨c, tail, heq, hc⟩ := writeNumeral_front n
    refine ⟨c, tail, heq, ?_, ?_⟩
    · rcases hc with rfl | hc
      · decide
      · have hapart : c ≠ ' ' ∧ c ≠ '\n' ∧ c ≠ '\t' ∧ c ≠ '\r' := by
          refine ⟨?_, ?_, ?_, ?_⟩ <;> (rintro rfl; cases hc)
        simp [isSpace, hapart]
    · rcases hc with rfl | hc
      · decide
      · rintro rfl
        cases hc

theorem LaidOut.length_pos {v : Json} {cs : List Char} (h : LaidOut v cs) : 0 < cs.length := by
  obtain ⟨c, tail, rfl, -⟩ := h.front
  exact Nat.succ_pos _

theorem MemberLaidOut.front {member : Option String × Json} {cs : List Char}
    (h : MemberLaidOut member cs) : ∃ c tail, cs = c :: tail ∧ isSpace c = false ∧ c = '"' := by
  cases h
  exact ⟨'"', _, rfl, by decide, rfl⟩

theorem MemberLaidOut.length_pos {member : Option String × Json} {cs : List Char}
    (h : MemberLaidOut member cs) : 0 < cs.length := by
  obtain ⟨c, tail, rfl, -⟩ := h.front
  exact Nat.succ_pos _

theorem Listed.length_pos {α : Type} {R : α → List Char → Prop} {items : List α} {cs : List Char}
    (h : Listed R items cs) (hpos : ∀ a cs, R a cs → 0 < cs.length) : 0 < cs.length := by
  cases h with
  | last _ _ h | more _ _ h _ =>
    have hitem := hpos _ _ h
    simp only [List.length_append]
    omega

/-- Behind its blanks a list begins as its first item does. -/
theorem Listed.front {α : Type} {R : α → List Char → Prop} {P : Char → Prop} {items : List α}
    {cs : List Char} (h : Listed R items cs)
    (hfront : ∀ a cs, R a cs → ∃ c tail, cs = c :: tail ∧ isSpace c = false ∧ P c)
    (rest : List Char) : ∃ c tail, skipSpace (cs ++ rest) = c :: tail ∧ P c := by
  cases h with
  | last hbefore _ h | more hbefore _ h _ =>
    obtain ⟨c, tail, rfl, hspace, hc⟩ := hfront _ _ h
    simp only [List.append_assoc, List.cons_append]
    exact ⟨c, _, skipSpace_behind hbefore hspace _, hc⟩

/-! ## 4. Reading a layout -/

theorem readValue_numeral (fuel : Nat) {n : Numeral} (hdigits : ∀ d ∈ n.fraction, d.isDigit = true)
    {rest : List Char} (hrest : Ends rest) :
    readValue (fuel + 1) (writeNumeral n ++ rest) = some (.number n, rest) := by
  have hspace : skipSpace (writeNumeral n ++ rest) = writeNumeral n ++ rest := by
    obtain ⟨c, tail, heq, hc, -⟩ := (LaidOut.number hdigits).front
    rw [heq]
    exact skipSpace_cons hc _
  have hread := readNumeral_append hdigits hrest
  rw [readValue, hspace]
  obtain ⟨c, tail, heq, hc⟩ := writeNumeral_front n
  rw [heq, List.cons_append] at hread ⊢
  -- The first character of a numeral begins neither a string nor a list nor a word.
  have hne (d : Char) (hminus : d ≠ '-') (hdigit : d.isDigit = false) : c ≠ d := by
    rintro rfl
    rcases hc with hc | hc
    · exact hminus hc
    · rw [hdigit] at hc
      cases hc
  split
  · next h => cases h; exact absurd rfl (hne '"' (by decide) rfl)
  · next h => cases h; exact absurd rfl (hne '[' (by decide) rfl)
  · next h => cases h; exact absurd rfl (hne '\x7b' (by decide) rfl)
  · have hword : readWord constants (c :: (tail ++ rest)) = none := by
      have hn : ('n' : Char) ≠ c := (hne 'n' (by decide) rfl).symm
      have ht : ('t' : Char) ≠ c := (hne 't' (by decide) rfl).symm
      have hf : ('f' : Char) ≠ c := (hne 'f' (by decide) rfl).symm
      simp [readWord, constants, stripLead, hn, ht, hf]
    rw [hword, hread]
    rfl

theorem readValue_quote (fuel : Nat) (cs : List Char) : readValue (fuel + 1) ('"' :: cs) =
    (readString cs).map fun (s, rest) => (.text s, rest) := rfl

theorem readValue_bracket (fuel : Nat) (cs : List Char) : readValue (fuel + 1) ('[' :: cs) =
    match skipSpace cs with
    | ']' :: rest => some (.array [], rest)
    | cs => (readItems fuel cs).map fun (items, rest) => (.array items, rest) := rfl

theorem readValue_brace (fuel : Nat) (cs : List Char) : readValue (fuel + 1) ('\x7b' :: cs) =
    match skipSpace cs with
    | '\x7d' :: rest => some (.object [], rest)
    | cs => (readMembers fuel cs).map fun (members, rest) => (.object members, rest) := rfl

theorem readValue_array (fuel : Nat) {cs tail : List Char} {c : Char}
    (hfront : skipSpace cs = c :: tail) (hc : c ≠ ']') :
    readValue (fuel + 1) ('[' :: cs) =
      (readItems fuel cs).map fun (items, rest) => (.array items, rest) := by
  rw [readValue_bracket, ← readItems_skipSpace fuel cs, hfront]
  split
  · next h => cases h; exact absurd rfl hc
  · rfl

theorem readValue_object (fuel : Nat) {cs tail : List Char} (hfront : skipSpace cs = '"' :: tail) :
    readValue (fuel + 1) ('\x7b' :: cs) =
      (readMembers fuel cs).map fun (members, rest) => (.object members, rest) := by
  rw [readValue_brace, ← readMembers_skipSpace fuel cs, hfront]
  rfl

theorem readKey_writeString {before left : List Char} (hbefore : Blanks before)
    (hleft : Blanks left) (key : String) (rest : List Char) :
    readKey (before ++ (writeString key ++ (left ++ ':' :: rest))) = some (some key, rest) := by
  have hquote : skipSpace (before ++ (writeString key ++ (left ++ ':' :: rest))) =
      '"' :: (key.toList.flatMap escapeChar ++ '"' :: (left ++ ':' :: rest)) := by
    unfold writeString
    simp only [List.cons_append, List.append_assoc, List.nil_append]
    exact skipSpace_behind hbefore (by decide) _
  have hcolon : skipSpace (left ++ ':' :: rest) = ':' :: rest :=
    skipSpace_behind hleft (by decide) rest
  unfold readKey
  rw [hquote]
  show (readString (key.toList.flatMap escapeChar ++ '"' :: (left ++ ':' :: rest))).bind _ = _
  rw [readString_append, Option.bind_some]
  simp only [hcolon]
  rfl

section

variable {fuel : Nat} {before left right behind cs rest : List Char} {key : String} {v : Json}

/-- An item in front of the closing bracket is the last one. -/
theorem readItems_last (hbefore : Blanks before) (hbehind : Blanks behind)
    (hread : readValue fuel (cs ++ (behind ++ ']' :: rest)) = some (v, behind ++ ']' :: rest)) :
    readItems (fuel + 1) (before ++ (cs ++ (behind ++ ']' :: rest))) = some ([v], rest) := by
  rw [readItems, readValue_congr (skipSpace_append hbefore _) fuel, hread]
  dsimp only
  rw [skipSpace_behind hbehind (by decide)]
  rfl

/-- An item in front of a comma is read, and then the items behind the comma. -/
theorem readItems_more (hbefore : Blanks before) (hbehind : Blanks behind)
    (hread : readValue fuel (cs ++ (behind ++ ',' :: rest)) = some (v, behind ++ ',' :: rest)) :
    readItems (fuel + 1) (before ++ (cs ++ (behind ++ ',' :: rest))) =
      (readItems fuel rest).map fun (items, rest) => (v :: items, rest) := by
  rw [readItems, readValue_congr (skipSpace_append hbefore _) fuel, hread]
  dsimp only
  rw [skipSpace_behind hbehind (by decide)]
  rfl

theorem readMembers_last (hbefore : Blanks before) (hleft : Blanks left) (hright : Blanks right)
    (hbehind : Blanks behind)
    (hread : readValue fuel (cs ++ (behind ++ '\x7d' :: rest)) =
      some (v, behind ++ '\x7d' :: rest)) :
    readMembers (fuel + 1) (before ++
        (writeString key ++ (left ++ ':' :: (right ++ (cs ++ (behind ++ '\x7d' :: rest)))))) =
      some ([(some key, v)], rest) := by
  rw [readMembers, readKey_writeString hbefore hleft]
  dsimp only
  rw [readValue_congr (skipSpace_append hright _) fuel, hread]
  dsimp only
  rw [skipSpace_behind hbehind (by decide)]
  rfl

/-- A member in front of a comma is read, and then the members behind the comma. -/
theorem readMembers_more (hbefore : Blanks before) (hleft : Blanks left) (hright : Blanks right)
    (hbehind : Blanks behind)
    (hread : readValue fuel (cs ++ (behind ++ ',' :: rest)) = some (v, behind ++ ',' :: rest)) :
    readMembers (fuel + 1) (before ++
        (writeString key ++ (left ++ ':' :: (right ++ (cs ++ (behind ++ ',' :: rest)))))) =
      (readMembers fuel rest).map fun (members, rest) => ((some key, v) :: members, rest) := by
  rw [readMembers, readKey_writeString hbefore hleft]
  dsimp only
  rw [readValue_congr (skipSpace_append hright _) fuel, hread]
  dsimp only
  rw [skipSpace_behind hbehind (by decide)]
  rfl

end

/-! ## 5. Enough steps

A count of steps suffices for a value if it is at least twice its length less one, and for items or
members if it is at least twice theirs.  A step of each reader needs the others with one step less.
-/

def ReadsValues (fuel : Nat) : Prop :=
  ∀ v cs rest, LaidOut v cs → Ends rest → 2 * cs.length ≤ fuel + 1 →
    readValue fuel (cs ++ rest) = some (v, rest)

def ReadsItems (fuel : Nat) : Prop :=
  ∀ items cs rest, Listed LaidOut items cs → 2 * cs.length ≤ fuel →
    readItems fuel (cs ++ ']' :: rest) = some (items, rest)

def ReadsMembers (fuel : Nat) : Prop :=
  ∀ members cs rest, Listed MemberLaidOut members cs → 2 * cs.length ≤ fuel →
    readMembers fuel (cs ++ '\x7d' :: rest) = some (members, rest)

theorem readsValues_zero : ReadsValues 0 := by
  intro v cs rest h _ hfuel
  have hpos := h.length_pos
  omega

theorem readsItems_zero : ReadsItems 0 := by
  intro items cs rest h hfuel
  have hpos := h.length_pos fun _ _ => LaidOut.length_pos
  omega

theorem readsMembers_zero : ReadsMembers 0 := by
  intro members cs rest h hfuel
  have hpos := h.length_pos fun _ _ => MemberLaidOut.length_pos
  omega

variable {fuel : Nat}

/-- Behind its opening bracket an array goes on with its items, and an object with its members. -/
theorem readsValues_succ (hitems : ReadsItems fuel) (hmembers : ReadsMembers fuel) :
    ReadsValues (fuel + 1) := by
  intro v cs rest h hrest hfuel
  cases h with
  | null => rfl
  | bool b => cases b <;> rfl
  | number hdigits => exact readValue_numeral fuel hdigits hrest
  | text s =>
    have hread := readString_append s rest
    simp only [writeString, List.cons_append, List.append_assoc, List.nil_append]
    rw [readValue_quote, hread]
    rfl
  | @noItems blank hblank =>
    simp only [List.cons_append, List.append_assoc, List.nil_append]
    rw [readValue_bracket, skipSpace_behind hblank (by decide)]
    rfl
  | @noMembers blank hblank =>
    simp only [List.cons_append, List.append_assoc, List.nil_append]
    rw [readValue_brace, skipSpace_behind hblank (by decide)]
    rfl
  | @items items cs h =>
    simp only [List.length_cons, List.length_append, List.length_nil] at hfuel
    obtain ⟨c, tail, hfront, hc⟩ := h.front (fun _ _ => LaidOut.front) (']' :: rest)
    -- The brackets make room for the steps that the items need.
    have hread := hitems items cs rest h (by omega)
    simp only [List.cons_append, List.append_assoc, List.nil_append]
    rw [readValue_array fuel hfront hc, hread]
    rfl
  | @members members cs h =>
    simp only [List.length_cons, List.length_append, List.length_nil] at hfuel
    obtain ⟨c, tail, hfront, rfl⟩ := h.front (fun _ _ => MemberLaidOut.front) ('\x7d' :: rest)
    have hread := hmembers members cs rest h (by omega)
    simp only [List.cons_append, List.append_assoc, List.nil_append]
    rw [readValue_object fuel hfront, hread]
    rfl

theorem readsItems_succ (hvalues : ReadsValues fuel) (hitems : ReadsItems fuel) :
    ReadsItems (fuel + 1) := by
  intro items cs rest h hfuel
  cases h with
  | @last before behind cs v hbefore hbehind h =>
    simp only [List.length_append] at hfuel
    have hread := hvalues v cs (behind ++ ']' :: rest) h (hbehind.ends_cons (by decide) rest)
      (by omega)
    simp only [List.append_assoc]
    exact readItems_last hbefore hbehind hread
  | @more before behind cs later v items hbefore hbehind h hlater =>
    simp only [List.length_append, List.length_cons] at hfuel
    have hread := hvalues v cs (behind ++ ',' :: (later ++ ']' :: rest)) h
      (hbehind.ends_cons (by decide) _) (by omega)
    have hrest := hitems items later rest hlater (by omega)
    simp only [List.append_assoc, List.cons_append]
    rw [readItems_more hbefore hbehind hread, hrest]
    rfl

theorem readsMembers_succ (hvalues : ReadsValues fuel) (hmembers : ReadsMembers fuel) :
    ReadsMembers (fuel + 1) := by
  intro members cs rest h hfuel
  cases h with
  | @last before behind cs member hbefore hbehind h =>
    obtain ⟨key, hleft, hright, hv⟩ := h
    simp only [List.length_append, List.length_cons] at hfuel
    have hread := hvalues _ _ (behind ++ '\x7d' :: rest) hv (hbehind.ends_cons (by decide) rest)
      (by omega)
    simp only [List.append_assoc, List.cons_append]
    exact readMembers_last hbefore hleft hright hbehind hread
  | @more before behind cs later member members hbefore hbehind h hlater =>
    obtain ⟨key, hleft, hright, hv⟩ := h
    simp only [List.length_append, List.length_cons] at hfuel
    have hread := hvalues _ _ (behind ++ ',' :: (later ++ '\x7d' :: rest)) hv
      (hbehind.ends_cons (by decide) _) (by omega)
    have hrest := hmembers members later rest hlater (by omega)
    simp only [List.append_assoc, List.cons_append]
    rw [readMembers_more hbefore hleft hright hbehind hread, hrest]
    rfl

/-- Every layout that is short enough for the count of steps is read. -/
theorem read_layouts (fuel : Nat) : ReadsValues fuel ∧ ReadsItems fuel ∧ ReadsMembers fuel := by
  induction fuel with
  | zero => exact ⟨readsValues_zero, readsItems_zero, readsMembers_zero⟩
  | succ fuel ih =>
    obtain ⟨hvalues, hitems, hmembers⟩ := ih
    exact ⟨readsValues_succ hitems hmembers, readsItems_succ hvalues hitems,
      readsMembers_succ hvalues hmembers⟩

/-- A text that is a layout with blanks around it is read as the value. -/
theorem parse?_of_laidOut {v : Json} {before behind cs : List Char} (hbefore : Blanks before)
    (hbehind : Blanks behind) (h : LaidOut v cs) :
    parse? (String.ofList (before ++ (cs ++ behind))) = some v := by
  have hends : Ends behind := by
    have hnil := hbehind.ends (show Ends [] from nofun)
    rwa [List.append_nil] at hnil
  have hlength : cs.length ≤ (before ++ (cs ++ behind)).length := by
    simp only [List.length_append]
    omega
  -- The reader is given more steps than the value needs, as it counts the blanks as well.
  have hread := (read_layouts (2 * (before ++ (cs ++ behind)).length + 2)).1 v cs behind h hends
    (by omega)
  have hspace : skipSpace behind = [] := by
    have hskip := skipSpace_append hbehind []
    rw [List.append_nil] at hskip
    exact hskip
  unfold parse?
  dsimp only
  rw [String.toList_ofList, readValue_congr (skipSpace_append hbefore _), hread]
  dsimp only
  rw [if_pos hspace]

end DiceCup.Json

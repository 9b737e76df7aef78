import DiceCup.Text.Digits
import DiceCup.Text.Words

/-!
# Reading — what a reader took off the front of a text

Whatever a reader gives comes with a front that it read: the text is that front followed by the
rest.  In the other direction a reader finds a front that was written for it, as long as the text
behind does not make the front longer; for numerals that means that no digit follows.
-/

namespace DiceCup.Text

/-! ## 1. Runs of digits -/

theorem noDigitFirst_nil : NoDigitFirst [] := by
  intro c hc
  cases hc

theorem noDigitFirst_cons {c : Char} {cs : List Char} (h : c.isDigit = false) :
    NoDigitFirst (c :: cs) := by
  intro d hd
  cases hd
  exact h

/-- Where a run of digits ends is determined by the text. -/
theorem digits_append_inj {ds es rest more : List Char} (hds : ∀ c ∈ ds, c.isDigit = true)
    (hes : ∀ c ∈ es, c.isDigit = true) (hrest : NoDigitFirst rest) (hmore : NoDigitFirst more)
    (h : ds ++ rest = es ++ more) : ds = es ∧ rest = more := by
  constructor
  · rw [← takeWhile_digits hds hrest, h, takeWhile_digits hes hmore]
  · rw [← dropWhile_digits hds hrest, h, dropWhile_digits hes hmore]

/-- Where a run of digits begins behind other characters is determined by the text. -/
theorem append_digits_inj {cs bs ds es : List Char} (hcs : ∀ c ∈ cs, c.isDigit = false)
    (hbs : ∀ c ∈ bs, c.isDigit = false) (hds : ∀ c ∈ ds, c.isDigit = true)
    (hes : ∀ c ∈ es, c.isDigit = true) (h : cs ++ ds = bs ++ es) : cs = bs ∧ ds = es := by
  -- The run is all that is left when the other characters are filtered out.
  have digitsOf (front run : List Char) (hfront : ∀ c ∈ front, c.isDigit = false)
      (hrun : ∀ c ∈ run, c.isDigit = true) : (front ++ run).filter Char.isDigit = run := by
    have hnil : front.filter Char.isDigit = [] :=
      List.filter_eq_nil_iff.mpr fun c hc => by rw [hfront c hc]; decide
    rw [List.filter_append, hnil, List.nil_append, List.filter_eq_self.mpr hrun]
  have hrun : ds = es := by
    rw [← digitsOf cs ds hcs hds, h, digitsOf bs es hbs hes]
  exact ⟨List.append_cancel_right (hrun ▸ h), hrun⟩

/-! ## 2. Numerals -/

theorem toDigits_append_ne {n : Nat} {c : Char} (hc : c.isDigit = false) (rest more : List Char) :
    toDigits n ++ rest ≠ c :: more := by
  intro h
  cases hdigits : toDigits n with
  | nil => exact toDigits_ne_nil n hdigits
  | cons d ds =>
    have hd : d.isDigit = true := by
      apply isDigit_of_mem_toDigits
      rw [hdigits]
      exact List.mem_cons_self
    rw [hdigits] at h
    rw [(List.cons.inj h).1, hc] at hd
    cases hd

/-- A written number and what follows it are determined by the text. -/
theorem toDigits_append_inj {m n : Nat} {rest more : List Char} (hrest : NoDigitFirst rest)
    (hmore : NoDigitFirst more) (h : toDigits m ++ rest = toDigits n ++ more) :
    m = n ∧ rest = more := by
  have hread := readNat_toDigits m hrest
  rw [h, readNat_toDigits n hmore] at hread
  cases hread
  exact ⟨rfl, rfl⟩

/-- A written integer ends where no digit follows, so it can be taken off a text. -/
theorem intDigits_append_inj {y z : Int} {rest more : List Char} (hrest : NoDigitFirst rest)
    (hmore : NoDigitFirst more) (h : intDigits y ++ rest = intDigits z ++ more) :
    y = z ∧ rest = more := by
  cases y with
  | ofNat m =>
    cases z with
    | ofNat n =>
      obtain ⟨rfl, hbehind⟩ := toDigits_append_inj hrest hmore h
      exact ⟨rfl, hbehind⟩
    | negSucc n => exact absurd h (toDigits_append_ne (by decide) _ _)
  | negSucc m =>
    cases z with
    | ofNat n => exact absurd h.symm (toDigits_append_ne (by decide) _ _)
    | negSucc n =>
      obtain ⟨hdigits, hbehind⟩ := toDigits_append_inj hrest hmore (List.cons.inj h).2
      exact ⟨by rw [Nat.succ.inj hdigits], hbehind⟩

theorem mem_intDigits {z : Int} {c : Char} (h : c ∈ intDigits z) : c.isDigit = true ∨ c = '-' := by
  cases z with
  | ofNat n => exact .inl (isDigit_of_mem_toDigits h)
  | negSucc n => exact (List.mem_cons.mp h).symm.imp isDigit_of_mem_toDigits id

theorem readNat_eq_none {cs : List Char} (h : NoDigitFirst cs) : readNat cs = none := by
  have hrun : cs.takeWhile Char.isDigit = [] :=
    takeWhile_digits (List.forall_mem_nil _) h
  rw [readNat, if_pos hrun]

/-- A number is read from the run of digits in front, all of it. -/
theorem readNat_eq_some {cs rest : List Char} {n : Nat} (h : readNat cs = some (n, rest)) :
    ∃ ds : List Char, ds ≠ [] ∧ (∀ c ∈ ds, c.isDigit = true) ∧ cs = ds ++ rest ∧
      digitsValue ds = n := by
  change (if cs.takeWhile Char.isDigit = [] then none
    else some (digitsValue (cs.takeWhile Char.isDigit), cs.dropWhile Char.isDigit)) = _ at h
  split at h
  · cases h
  · rename_i hne
    rcases Prod.mk.inj (Option.some.inj h) with ⟨rfl, rfl⟩
    refine ⟨cs.takeWhile Char.isDigit, hne, fun c hc => ?_, ?_, rfl⟩
    · exact List.all_eq_true.mp List.all_takeWhile c hc
    · exact List.takeWhile_append_dropWhile.symm

theorem readNatUpTo_eq_some_iff {most n : Nat} {cs rest : List Char} :
    readNatUpTo most cs = some (n, rest) ↔ readNat cs = some (n, rest) ∧ n ≤ most := by
  rw [readNatUpTo, Option.filter_eq_some_iff, decide_eq_true_eq]

theorem readNatUpTo_eq_none {most : Nat} {cs : List Char} (h : NoDigitFirst cs) :
    readNatUpTo most cs = none := by
  rw [readNatUpTo, readNat_eq_none h, Option.filter_none]

/-! ## 3. Words and combined readers -/

/-- A word that is read stands in the table and at the front of the text. -/
theorem readWord_eq_some {α : Type} {words : List (String × α)} {cs rest : List Char} {a : α}
    (h : readWord words cs = some (a, rest)) :
    ∃ word : String, (word, a) ∈ words ∧ cs = word.toList ++ rest := by
  rcases List.exists_of_findSome?_eq_some h with ⟨⟨word, b⟩, hmem, hread⟩
  rcases Option.map_eq_some_iff.mp hread with ⟨left, hstrip, heq⟩
  rcases Prod.mk.inj heq with ⟨rfl, rfl⟩
  exact ⟨word, hmem, eq_append_of_stripLead hstrip⟩

theorem readAfter_cons {α : Type} (c : Char) (reader : Reader α) (cs : List Char) :
    readAfter c reader (c :: cs) = reader cs := by
  rw [readAfter, stripLead, if_pos rfl]
  rfl

theorem readAfter_eq_some {α : Type} {c : Char} {reader : Reader α} {cs rest : List Char} {a : α}
    (h : readAfter c reader cs = some (a, rest)) :
    ∃ behind : List Char, cs = c :: behind ∧ reader behind = some (a, rest) := by
  rcases Option.bind_eq_some_iff.mp h with ⟨behind, hstrip, hread⟩
  exact ⟨behind, eq_append_of_stripLead hstrip, hread⟩

theorem readOptional_of_some {α : Type} {reader : Reader α} {cs rest : List Char} {a : α}
    (h : reader cs = some (a, rest)) : readOptional reader cs = (some a, rest) := by
  rw [readOptional, h]

theorem readOptional_of_none {α : Type} {reader : Reader α} {cs : List Char}
    (h : reader cs = none) : readOptional reader cs = (none, cs) := by
  rw [readOptional, h]

/-- An optional reader either finds something or leaves the text as it is. -/
theorem readOptional_cases {α : Type} (reader : Reader α) (cs : List Char) :
    (∃ (a : α) (rest : List Char), reader cs = some (a, rest) ∧
      readOptional reader cs = (some a, rest)) ∨ readOptional reader cs = (none, cs) := by
  cases hread : reader cs with
  | none => exact .inr (readOptional_of_none hread)
  | some found => exact .inl ⟨found.1, found.2, rfl, readOptional_of_some hread⟩

end DiceCup.Text

import DiceCup.Proofs.Text.Reading
import DiceCup.Text.Characters

/-!
# Signed numerals — with blanks around them

Trimming finds what stands between the blanks at the ends of a text, as long as that neither starts
nor ends with a blank itself.  A signed numeral does not, so trimming a text and reading the rest
from end to end finds the numeral in it, if there is one.
-/

namespace DiceCup.Text

/-! ## 1. Trimming -/

def NoBlankEnds (cs : List Char) : Prop :=
  (∀ c ∈ cs.head?, isBlank c = false) ∧ ∀ c ∈ cs.getLast?, isBlank c = false

theorem trimStart_eq_self {cs : List Char} (h : ∀ c ∈ cs.head?, isBlank c = false) :
    trimStart cs = cs := by
  cases cs with
  | nil => rfl
  | cons c cs => exact List.dropWhile_cons_of_neg (by rw [h c rfl]; decide)

theorem trimEnd_append_of_blank {back : List Char} (hback : ∀ c ∈ back, isBlank c = true)
    {cs : List Char} (h : ∀ c ∈ cs.getLast?, isBlank c = false) : trimEnd (cs ++ back) = cs := by
  have hreverse : ∀ c ∈ back.reverse, isBlank c = true := fun c hc =>
    hback c (List.mem_reverse.mp hc)
  have hhead : ∀ c ∈ cs.reverse.head?, isBlank c = false := by
    rw [List.head?_reverse]
    exact h
  rw [trimEnd, List.reverse_append, trimStart, List.dropWhile_append_of_pos hreverse]
  show (trimStart cs.reverse).reverse = cs
  rw [trimStart_eq_self hhead, List.reverse_reverse]

theorem trim_padded {front body back : List Char} (hfront : ∀ c ∈ front, isBlank c = true)
    (hback : ∀ c ∈ back, isBlank c = true) (hne : body ≠ []) (hends : NoBlankEnds body) :
    trim (front ++ body ++ back) = body := by
  have hhead : ∀ c ∈ (body ++ back).head?, isBlank c = false := by
    cases body with
    | nil => exact absurd rfl hne
    | cons c body => exact hends.1
  rw [List.append_assoc, trim_append_of_blank hfront, trim, trimStart_eq_self hhead,
    trimEnd_append_of_blank hback hends.2]

/-- What trimming drops off an end are blanks. -/
theorem exists_trimStart (cs : List Char) :
    ∃ front : List Char, (∀ c ∈ front, isBlank c = true) ∧ cs = front ++ trimStart cs :=
  ⟨cs.takeWhile isBlank, fun _ hc => List.all_eq_true.mp List.all_takeWhile _ hc,
    List.takeWhile_append_dropWhile.symm⟩

/-- Trimming takes blanks off both ends and nothing else. -/
theorem exists_trim (cs : List Char) :
    ∃ front back : List Char, (∀ c ∈ front, isBlank c = true) ∧ (∀ c ∈ back, isBlank c = true) ∧
      cs = front ++ trim cs ++ back := by
  obtain ⟨front, hfront, hcs⟩ := exists_trimStart cs
  obtain ⟨back, hback, hrest⟩ := exists_trimStart (trimStart cs).reverse
  refine ⟨front, back.reverse, hfront, fun c hc => hback c (List.mem_reverse.mp hc), ?_⟩
  have hbehind : trimStart cs = trim cs ++ back.reverse := by
    rw [← List.reverse_reverse (trimStart cs), hrest, List.reverse_append]
    rfl
  rw [List.append_assoc, ← hbehind]
  exact hcs

/-! ## 2. Numerals from end to end -/

/-- The text is a run of digits, which must not be empty, behind at most one sign; the value is that
of the digits, leading zeros or not, with the sign. -/
inductive SignedNumeral : List Char → Int → Prop where
  | plain {ds : List Char} (hne : ds ≠ []) (hd : ∀ c ∈ ds, c.isDigit = true) :
    SignedNumeral ds (digitsValue ds)
  | plus {ds : List Char} (hne : ds ≠ []) (hd : ∀ c ∈ ds, c.isDigit = true) :
    SignedNumeral ('+' :: ds) (digitsValue ds)
  | minus {ds : List Char} (hne : ds ≠ []) (hd : ∀ c ∈ ds, c.isDigit = true) :
    SignedNumeral ('-' :: ds) (-digitsValue ds)

theorem wholeNat_eq_some_iff {cs : List Char} {n : Nat} : wholeNat cs = some n ↔
    cs ≠ [] ∧ (∀ c ∈ cs, c.isDigit = true) ∧ digitsValue cs = n := by
  constructor
  · intro h
    unfold wholeNat at h
    split at h
    next m hread =>
      cases h
      obtain ⟨ds, hne, hd, hcs, hvalue⟩ := readNat_eq_some hread
      rw [List.append_nil] at hcs
      subst hcs
      exact ⟨hne, hd, hvalue⟩
    next => cases h
  · rintro ⟨hne, hd, rfl⟩
    exact wholeNat_eq_some hne hd

theorem wholeInt_of_digits {ds : List Char} (hne : ds ≠ []) (hd : ∀ c ∈ ds, c.isDigit = true) :
    wholeInt ds = some (digitsValue ds : Int) := by
  -- A run of digits does not begin with a sign.
  have hplus : ∀ cs, ds ≠ '+' :: cs := by
    rintro cs rfl
    exact absurd (hd '+' List.mem_cons_self) (by decide)
  have hminus : ∀ cs, ds ≠ '-' :: cs := by
    rintro cs rfl
    exact absurd (hd '-' List.mem_cons_self) (by decide)
  unfold wholeInt
  split
  next cs => exact absurd rfl (hplus cs)
  next cs => exact absurd rfl (hminus cs)
  next => rw [wholeNat_eq_some hne hd]; rfl

/-- A text is read as an integer just if it is a signed numeral of it. -/
theorem wholeInt_eq_some_iff {cs : List Char} {z : Int} :
    wholeInt cs = some z ↔ SignedNumeral cs z := by
  constructor
  · intro h
    unfold wholeInt at h
    split at h
    all_goals
      obtain ⟨n, hread, rfl⟩ := Option.map_eq_some_iff.mp h
      obtain ⟨hne, hd, rfl⟩ := wholeNat_eq_some_iff.mp hread
    · exact .plus hne hd
    · exact .minus hne hd
    · exact .plain hne hd
  · intro h
    cases h with
    | plain hne hd => exact wholeInt_of_digits hne hd
    | plus hne hd => rw [wholeInt, wholeNat_eq_some hne hd]; rfl
    | minus hne hd => rw [wholeInt, wholeNat_eq_some hne hd]; rfl

theorem isBlank_of_isDigit {c : Char} (h : c.isDigit = true) : isBlank c = false := by
  have hrange : 48 ≤ c.toNat ∧ c.toNat ≤ 57 := by
    rw [Char.isDigit, Bool.and_eq_true, decide_eq_true_eq, decide_eq_true_eq] at h
    exact h
  simp [isBlank, inRanges, blankRanges]
  omega

theorem SignedNumeral.ne_nil {cs : List Char} {z : Int} (h : SignedNumeral cs z) : cs ≠ [] := by
  cases h with
  | plain hne _ => exact hne
  | plus _ _ => exact List.cons_ne_nil _ _
  | minus _ _ => exact List.cons_ne_nil _ _

theorem getLast?_not_blank {ds : List Char} (hd : ∀ c ∈ ds, c.isDigit = true) :
    ∀ c ∈ ds.getLast?, isBlank c = false :=
  fun c hc => isBlank_of_isDigit (hd c (List.mem_of_getLast? hc))

theorem noBlankEnds_sign {sign : Char} {ds : List Char} (hsign : isBlank sign = false)
    (hne : ds ≠ []) (hd : ∀ c ∈ ds, c.isDigit = true) : NoBlankEnds (sign :: ds) := by
  refine ⟨?_, ?_⟩
  · rintro c ⟨⟩
    exact hsign
  · rw [List.getLast?_cons_of_ne_nil hne]
    exact getLast?_not_blank hd

-- The last character is a digit, and the first one is a digit or a sign.
theorem SignedNumeral.noBlankEnds {cs : List Char} {z : Int} (h : SignedNumeral cs z) :
    NoBlankEnds cs := by
  cases h with
  | plain hne hd =>
    exact ⟨fun c hc => isBlank_of_isDigit (hd c (List.mem_of_head? hc)), getLast?_not_blank hd⟩
  | plus hne hd => exact noBlankEnds_sign (by decide) hne hd
  | minus hne hd => exact noBlankEnds_sign (by decide) hne hd

/-! ## 3. Numerals between blanks -/

/-- With blanks at its ends left out, the text is a signed numeral of that value. -/
def Denotes (cs : List Char) (z : Int) : Prop :=
  ∃ front numeral back : List Char, (∀ c ∈ front, isBlank c = true) ∧
    (∀ c ∈ back, isBlank c = true) ∧ cs = front ++ numeral ++ back ∧ SignedNumeral numeral z

/-- With blanks around it, a signed numeral is still read. -/
theorem wholeInt_trim_eq_some_iff {cs : List Char} {z : Int} :
    wholeInt (trim cs) = some z ↔ Denotes cs z := by
  constructor
  · intro h
    obtain ⟨front, back, hfront, hback, hcs⟩ := exists_trim cs
    exact ⟨front, trim cs, back, hfront, hback, hcs, wholeInt_eq_some_iff.mp h⟩
  · rintro ⟨front, numeral, back, hfront, hback, rfl, h⟩
    rw [trim_padded hfront hback h.ne_nil h.noBlankEnds]
    exact wholeInt_eq_some_iff.mpr h

end DiceCup.Text

import DiceCup.Formula.Identifier
import DiceCup.Proofs.Text.Reading

/-!
# Spellings — a text has at most one

A spelling lists the choices of a writer: words from the tables and numerals of any length.  Its
parts follow one another in such a way that each ends where the text says: a numeral at the first
character that is no digit, a word where no other word of the table goes on.  So the text of a
spelling determines it (`Spelling.text_injective`), whether or not its numerals are within their
limits.
-/

namespace DiceCup

namespace Formula

open Text

/-! ## 1. Parts of a spelling -/

namespace Spelling

def Worded (s : Spelling) : Prop :=
  (∀ k ∈ s.keep, (k.1, k.2.1) ∈ keepWords) ∧ ∀ m ∈ s.modifier, (m.1, m.2.1) ∈ signWords

def WithinLimits (s : Spelling) : Prop :=
  (∀ n ∈ s.count, n.value ≤ mostCount) ∧ s.sides.value ≤ mostCount ∧
    (∀ k ∈ s.keep, ∀ n ∈ k.2.2, n.value ≤ mostCount) ∧
    ∀ m ∈ s.modifier, m.2.2.value ≤ mostModifier

instance (s : Spelling) : Decidable s.Worded := inferInstanceAs (Decidable (_ ∧ _))

instance (s : Spelling) : Decidable s.WithinLimits := inferInstanceAs (Decidable (_ ∧ _))

theorem admissible_iff (s : Spelling) : s.Admissible ↔ s.Worded ∧ s.WithinLimits := by
  constructor
  · rintro ⟨hcount, hsides, hkeep, hmodifier⟩
    exact ⟨⟨fun k hk => (hkeep k hk).1, fun m hm => (hmodifier m hm).1⟩, hcount, hsides,
      fun k hk => (hkeep k hk).2, fun m hm => (hmodifier m hm).2⟩
  · rintro ⟨⟨hwords, hsigns⟩, hcount, hsides, hkept, hamount⟩
    exact ⟨hcount, hsides, fun k hk => ⟨hwords k hk, hkept k hk⟩,
      fun m hm => ⟨hsigns m hm, hamount m hm⟩⟩

def keepText : Option (String × KeepMode × Option Numeral) → List Char
  | none => []
  | some (word, _, kept) => '_' :: word.toList ++ numeralText kept

def modifierText : Option (String × Int × Numeral) → List Char
  | none => []
  | some (word, _, amount) => '_' :: word.toList ++ amount.digits

theorem text_eq (s : Spelling) :
    s.text = (actionWord s.action).toList ++ '_' :: (numeralText s.count ++
      'd' :: (s.sides.digits ++ (keepText s.keep ++ modifierText s.modifier))) := by
  rcases s with ⟨action, count, sides, keep, modifier⟩
  cases keep <;> cases modifier <;>
    simp only [text, keepText, modifierText, List.append_assoc, List.cons_append]

/-- No part of a spelling behind the number of sides starts with a digit. -/
theorem noDigitFirst_modifierText (m : Option (String × Int × Numeral)) :
    NoDigitFirst (modifierText m) := by
  cases m with
  | none => exact noDigitFirst_nil
  | some m => exact noDigitFirst_cons (by decide)

theorem noDigitFirst_clauses (k : Option (String × KeepMode × Option Numeral))
    (m : Option (String × Int × Numeral)) : NoDigitFirst (keepText k ++ modifierText m) := by
  cases k with
  | none => exact noDigitFirst_modifierText m
  | some k => exact noDigitFirst_cons (by decide)

theorem isDigit_of_mem_numeralText {n : Option Numeral} {c : Char} (h : c ∈ numeralText n) :
    c.isDigit = true := by
  cases n with
  | none => cases h
  | some n => exact n.decimal c h

/-! ## 2. A text has one spelling -/

theorem numeral_ext {n p : Numeral} (h : n.digits = p.digits) : n = p := by
  cases n
  cases p
  cases h
  rfl

theorem numeralText_injective {n p : Option Numeral} (h : numeralText n = numeralText p) :
    n = p := by
  cases n with
  | none =>
    cases p with
    | none => rfl
    | some p => exact absurd h.symm p.nonempty
  | some n =>
    cases p with
    | none => exact absurd h n.nonempty
    | some p => exact congrArg some (numeral_ext h)

/-- No word for a keep clause is the beginning of another one. -/
theorem keepWords_apart : ∀ word ∈ keepWords, ∀ other ∈ keepWords,
    word.1.toList <+: other.1.toList → word = other := by
  decide

theorem signWords_apart : ∀ word ∈ signWords, ∀ other ∈ signWords,
    word.1 = other.1 → word = other := by
  decide

theorem not_isDigit_of_mem_signWord : ∀ word ∈ signWords, ∀ c ∈ word.1.toList,
    c.isDigit = false := by
  have hall : ∀ word ∈ signWords, (word.1.toList.all fun c => !c.isDigit) = true := by decide
  intro word hword c hc
  have hnot := List.all_eq_true.mp (hall word hword) c hc
  rw [Bool.not_eq_true'] at hnot
  exact hnot

/-- No sign begins like a word for a keep clause. -/
theorem keepWord_signWord_apart : ∀ word ∈ keepWords, ∀ sign ∈ signWords,
    ¬ (word.1.toList <+: sign.1.toList ∨ sign.1.toList <+: word.1.toList) := by
  decide

theorem modifierText_injective {m p : Option (String × Int × Numeral)}
    (hm : ∀ x ∈ m, (x.1, x.2.1) ∈ signWords) (hp : ∀ x ∈ p, (x.1, x.2.1) ∈ signWords)
    (h : modifierText m = modifierText p) : m = p := by
  cases m with
  | none =>
    cases p with
    | none => rfl
    | some p => cases h
  | some m =>
    cases p with
    | none => cases h
    | some p =>
      rcases m with ⟨word, sign, amount⟩
      rcases p with ⟨other, opposite, number⟩
      have hword := hm _ rfl
      have hother := hp _ rfl
      have htext : word.toList ++ amount.digits = other.toList ++ number.digits :=
        (List.cons.inj h).2
      -- The signs are letters, so the word ends where the digits begin.
      obtain ⟨hwords, hdigits⟩ := append_digits_inj (not_isDigit_of_mem_signWord _ hword)
        (not_isDigit_of_mem_signWord _ hother) amount.decimal number.decimal htext
      have hentry := signWords_apart _ hword _ hother (String.toList_injective hwords)
      rcases Prod.mk.inj hentry with ⟨rfl, rfl⟩
      rw [numeral_ext hdigits]

/-- What begins with a keep clause is no modifier. -/
theorem keepText_append_ne_modifierText {k : String × KeepMode × Option Numeral}
    {m : Option (String × Int × Numeral)} (hk : (k.1, k.2.1) ∈ keepWords)
    (hm : ∀ x ∈ m, (x.1, x.2.1) ∈ signWords) (rest : List Char) :
    keepText (some k) ++ rest ≠ modifierText m := by
  intro h
  cases m with
  | none => cases h
  | some m =>
    -- Behind the same `_` both begin with a word, and neither word begins the other.
    have htail : k.1.toList ++ (numeralText k.2.2 ++ rest) = m.1.toList ++ m.2.2.digits := by
      rw [← List.append_assoc]
      exact (List.cons.inj h).2
    apply keepWord_signWord_apart _ hk _ (hm m rfl)
    exact List.prefix_or_prefix_of_prefix (List.prefix_append k.1.toList _)
      (htail ▸ List.prefix_append m.1.toList _)

/-- The text behind the sides tells both clauses. -/
theorem clauses_injective {k l : Option (String × KeepMode × Option Numeral)}
    {m p : Option (String × Int × Numeral)} (hk : ∀ x ∈ k, (x.1, x.2.1) ∈ keepWords)
    (hl : ∀ x ∈ l, (x.1, x.2.1) ∈ keepWords) (hm : ∀ x ∈ m, (x.1, x.2.1) ∈ signWords)
    (hp : ∀ x ∈ p, (x.1, x.2.1) ∈ signWords)
    (h : keepText k ++ modifierText m = keepText l ++ modifierText p) : k = l ∧ m = p := by
  cases k with
  | none =>
    cases l with
    | none => exact ⟨rfl, modifierText_injective hm hp h⟩
    | some l => exact absurd h.symm (keepText_append_ne_modifierText (hl l rfl) hm _)
  | some k =>
    cases l with
    | none => exact absurd h (keepText_append_ne_modifierText (hk k rfl) hp _)
    | some l =>
      rcases k with ⟨word, mode, kept⟩
      rcases l with ⟨other, mode', kept'⟩
      have htail : word.toList ++ (numeralText kept ++ modifierText m) =
          other.toList ++ (numeralText kept' ++ modifierText p) := by
        rw [← List.append_assoc, ← List.append_assoc]
        exact (List.cons.inj h).2
      -- Two words in front of one text: one of them is the beginning of the other.
      have hentry : (word, mode) = (other, mode') := by
        rcases List.prefix_or_prefix_of_prefix (List.prefix_append word.toList _)
          (htail ▸ List.prefix_append other.toList _) with hpre | hpre
        · exact keepWords_apart _ (hk _ rfl) _ (hl _ rfl) hpre
        · exact (keepWords_apart _ (hl _ rfl) _ (hk _ rfl) hpre).symm
      rcases Prod.mk.inj hentry with ⟨rfl, rfl⟩
      obtain ⟨hkept, hmodifier⟩ := digits_append_inj (fun _ => isDigit_of_mem_numeralText)
        (fun _ => isDigit_of_mem_numeralText) (noDigitFirst_modifierText m)
        (noDigitFirst_modifierText p) (List.append_cancel_left htail)
      rw [numeralText_injective hkept]
      exact ⟨rfl, modifierText_injective hm hp hmodifier⟩

theorem actionWord_append_inj {a b : Action} {cs ds : List Char}
    (h : (actionWord a).toList ++ '_' :: cs = (actionWord b).toList ++ '_' :: ds) :
    a = b ∧ cs = ds := by
  cases a <;> cases b
  · exact ⟨rfl, (List.cons.inj (List.append_cancel_left h)).2⟩
  · exact absurd (List.cons.inj h).1 (by decide)
  · exact absurd (List.cons.inj h).1 (by decide)
  · exact ⟨rfl, (List.cons.inj (List.append_cancel_left h)).2⟩

/-- **No text has two spellings**, also where numerals are beyond their limits. -/
theorem text_injective {s t : Spelling} (hs : s.Worded) (ht : t.Worded) (h : s.text = t.text) :
    s = t := by
  rw [text_eq, text_eq] at h
  rcases actionWord_append_inj h with ⟨haction, htail⟩
  -- From here on each part ends where the next one starts, with a letter, a `_` or nothing.
  obtain ⟨hcount, hbehind⟩ := digits_append_inj (fun _ => isDigit_of_mem_numeralText)
    (fun _ => isDigit_of_mem_numeralText) (noDigitFirst_cons (by decide))
    (noDigitFirst_cons (by decide)) htail
  obtain ⟨hsides, hclauses⟩ := digits_append_inj s.sides.decimal t.sides.decimal
    (noDigitFirst_clauses _ _) (noDigitFirst_clauses _ _) (List.cons.inj hbehind).2
  rcases clauses_injective hs.1 ht.1 hs.2 ht.2 hclauses with ⟨hkeep, hmodifier⟩
  rw [Spelling.mk.injEq]
  exact ⟨haction, numeralText_injective hcount, numeral_ext hsides, hkeep, hmodifier⟩

end Spelling

end Formula

end DiceCup

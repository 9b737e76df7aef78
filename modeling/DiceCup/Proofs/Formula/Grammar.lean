import DiceCup.Proofs.Formula.Spelling

/-!
# The grammar of identifiers — what the reader accepts

What the reader takes off a text is the text of an admissible spelling (`readFormula_eq_some`), and
it reads every admissible spelling to its end and gives it its meaning (`readFormula_text`).  A
numeral beyond its limit spoils the identifier: the one spelling that the text has is not
admissible.
-/

namespace DiceCup

namespace Formula

open Text

open Spelling

/-! ## 1. Only spellings are read -/

theorem readCount_eq_some {cs rest : List Char} {v : UInt32} (h : readCount cs = some (v, rest)) :
    ∃ n : Numeral, n.value ≤ mostCount ∧ v = n.value.toUInt32 ∧ cs = n.digits ++ rest := by
  rcases Option.map_eq_some_iff.mp h with ⟨⟨value, left⟩, hread, heq⟩
  rcases Prod.mk.inj heq with ⟨rfl, rfl⟩
  rcases readNatUpTo_eq_some_iff.mp hread with ⟨hnat, hle⟩
  rcases readNat_eq_some hnat with ⟨ds, hne, hds, hcs, rfl⟩
  exact ⟨⟨ds, hne, hds⟩, hle, rfl, hcs⟩

theorem readOptional_readCount (cs : List Char) :
    ∃ (n : Option Numeral) (rest : List Char), (∀ x ∈ n, x.value ≤ mostCount) ∧
      readOptional readCount cs = (n.map fun x => x.value.toUInt32, rest) ∧
      cs = numeralText n ++ rest := by
  rcases readOptional_cases readCount cs with ⟨found, rest, hread, heq⟩ | heq
  · rcases readCount_eq_some hread with ⟨n, hle, rfl, hcs⟩
    refine ⟨some n, rest, ?_, heq, hcs⟩
    rintro x ⟨⟩
    exact hle
  · exact ⟨none, cs, fun x hx => (nomatch hx), heq, rfl⟩

theorem readKeep_eq_some {cs rest : List Char} {found : KeepMode × Option UInt32}
    (h : readKeep cs = some (found, rest)) :
    ∃ k : String × KeepMode × Option Numeral, (k.1, k.2.1) ∈ keepWords ∧
      (∀ n ∈ k.2.2, n.value ≤ mostCount) ∧
      found = (k.2.1, k.2.2.map fun n => n.value.toUInt32) ∧
      '_' :: cs = keepText (some k) ++ rest := by
  simp only [readKeep, Option.bind_eq_bind, Option.bind_eq_some_iff, Prod.exists,
    Option.pure_def, Option.some.injEq] at h
  rcases h with ⟨mode, behind, hword, h⟩
  rcases readWord_eq_some hword with ⟨word, hmem, rfl⟩
  rcases readOptional_readCount behind with ⟨n, left, hle, hkept, rfl⟩
  rw [hkept] at h
  rcases Prod.mk.inj h with ⟨rfl, rfl⟩
  refine ⟨(word, mode, n), hmem, hle, rfl, ?_⟩
  rw [keepText, List.cons_append, List.cons_append, List.append_assoc]

theorem readModifier_eq_some {cs rest : List Char} {found : Int32}
    (h : readModifier cs = some (found, rest)) :
    ∃ m : String × Int × Numeral, (m.1, m.2.1) ∈ signWords ∧ m.2.2.value ≤ mostModifier ∧
      found = Int32.ofInt (m.2.1 * m.2.2.value) ∧ '_' :: cs = modifierText (some m) ++ rest := by
  simp only [readModifier, Option.bind_eq_bind, Option.bind_eq_some_iff, Prod.exists,
    Option.pure_def, Option.some.injEq] at h
  rcases h with ⟨sign, behind, hword, amount, left, hread, h⟩
  rcases readWord_eq_some hword with ⟨word, hmem, rfl⟩
  rcases readNatUpTo_eq_some_iff.mp hread with ⟨hnat, hle⟩
  rcases readNat_eq_some hnat with ⟨ds, hne, hds, rfl, rfl⟩
  rcases Prod.mk.inj h with ⟨rfl, rfl⟩
  refine ⟨(word, sign, ⟨ds, hne, hds⟩), hmem, hle, rfl, ?_⟩
  rw [modifierText, List.cons_append, List.cons_append, List.append_assoc]

theorem readOptional_readKeep (cs : List Char) :
    ∃ (k : Option (String × KeepMode × Option Numeral)) (rest : List Char),
      (∀ x ∈ k, (x.1, x.2.1) ∈ keepWords ∧ ∀ n ∈ x.2.2, n.value ≤ mostCount) ∧
      readOptional (readAfter '_' readKeep) cs =
        (k.map fun x => (x.2.1, x.2.2.map fun n => n.value.toUInt32), rest) ∧
      cs = keepText k ++ rest := by
  rcases readOptional_cases (readAfter '_' readKeep) cs with ⟨found, rest, hread, heq⟩ | heq
  · rcases readAfter_eq_some hread with ⟨behind, rfl, hkeep⟩
    rcases readKeep_eq_some hkeep with ⟨k, hmem, hle, rfl, hcs⟩
    refine ⟨some k, rest, ?_, heq, hcs⟩
    rintro x ⟨⟩
    exact ⟨hmem, hle⟩
  · exact ⟨none, cs, fun x hx => (nomatch hx), heq, rfl⟩

theorem readOptional_readModifier (cs : List Char) :
    ∃ (m : Option (String × Int × Numeral)) (rest : List Char),
      (∀ x ∈ m, (x.1, x.2.1) ∈ signWords ∧ x.2.2.value ≤ mostModifier) ∧
      readOptional (readAfter '_' readModifier) cs =
        (m.map fun x => Int32.ofInt (x.2.1 * x.2.2.value), rest) ∧
      cs = modifierText m ++ rest := by
  rcases readOptional_cases (readAfter '_' readModifier) cs with ⟨found, rest, hread, heq⟩ | heq
  · rcases readAfter_eq_some hread with ⟨behind, rfl, hmodifier⟩
    rcases readModifier_eq_some hmodifier with ⟨m, hmem, hle, rfl, hcs⟩
    refine ⟨some m, rest, ?_, heq, hcs⟩
    rintro x ⟨⟩
    exact ⟨hmem, hle⟩
  · exact ⟨none, cs, fun x hx => (nomatch hx), heq, rfl⟩

theorem actionWords_eq : ∀ entry ∈ actionWords, entry.1 = actionWord entry.2 := by
  decide

/-- What is read off a text is the text of an admissible spelling, and its meaning is the result. -/
theorem readFormula_eq_some {cs rest : List Char} {f : Formula}
    (h : readFormula cs = some (f, rest)) :
    ∃ s : Spelling, s.Admissible ∧ s.meaning = f ∧ cs = s.text ++ rest := by
  simp only [readFormula, Option.bind_eq_bind, Option.bind_eq_some_iff, Prod.exists,
    Option.pure_def, Option.some.injEq] at h
  rcases h with ⟨action, cs₁, haction, cs₂, hline, sides, cs₄, hsides, h⟩
  -- Each reader gives the front that it took, and the next one starts behind it.
  rcases readWord_eq_some haction with ⟨word, hmem, rfl⟩
  obtain rfl : word = actionWord action := actionWords_eq _ hmem
  rcases eq_append_of_stripLead hline with rfl
  rcases readOptional_readCount cs₂ with ⟨count, cs₃, hcount, hread, rfl⟩
  rw [hread] at hsides h
  rcases readAfter_eq_some hsides with ⟨behind, rfl, hsides⟩
  rcases readCount_eq_some hsides with ⟨n, hn, rfl, rfl⟩
  rcases readOptional_readKeep cs₄ with ⟨keep, cs₅, hkeep, hread, rfl⟩
  rw [hread] at h
  rcases readOptional_readModifier cs₅ with ⟨modifier, cs₆, hmodifier, hread, rfl⟩
  rw [hread] at h
  rcases Prod.mk.inj h with ⟨rfl, rfl⟩
  refine ⟨⟨action, count, n, keep, modifier⟩, ⟨hcount, hn, hkeep, hmodifier⟩, ?_, ?_⟩
  · cases count <;> cases keep <;> rfl
  · rw [text_eq]
    simp only [List.append_assoc, List.cons_append, List.nil_append]

/-! ## 2. Every spelling is read -/

theorem readCount_digits {n : Numeral} (h : n.value ≤ mostCount) {rest : List Char}
    (hrest : NoDigitFirst rest) :
    readCount (n.digits ++ rest) = some (n.value.toUInt32, rest) := by
  have hnat : readNat (n.digits ++ rest) = some (n.value, rest) :=
    readNat_append n.nonempty n.decimal hrest
  rw [readCount, readNatUpTo_eq_some_iff.mpr ⟨hnat, h⟩]
  rfl

theorem readOptional_numeralText {n : Option Numeral} (h : ∀ x ∈ n, x.value ≤ mostCount)
    {rest : List Char} (hrest : NoDigitFirst rest) :
    readOptional readCount (numeralText n ++ rest) =
      (n.map fun x => x.value.toUInt32, rest) := by
  cases n with
  | none =>
    apply readOptional_of_none
    rw [readCount]
    exact congrArg _ (readNatUpTo_eq_none hrest)
  | some n => exact readOptional_of_some (readCount_digits (h n rfl) hrest)

/-- The first word of the table that fits is the one that was written. -/
theorem readWord_keepWord {word : String} {mode : KeepMode} (h : (word, mode) ∈ keepWords)
    (rest : List Char) : readWord keepWords (word.toList ++ rest) = some (mode, rest) := by
  simp only [keepWords, List.mem_cons, Prod.mk.injEq, List.not_mem_nil, or_false] at h
  rcases h with ⟨rfl, rfl⟩ | ⟨rfl, rfl⟩ | ⟨rfl, rfl⟩ | ⟨rfl, rfl⟩ <;> rfl

/-- The abbreviation of a sign is not taken for the beginning of the long word, since a digit
follows it. -/
theorem readWord_signWord {word : String} {sign : Int} (h : (word, sign) ∈ signWords)
    (n : Numeral) : readWord signWords (word.toList ++ n.digits) = some (sign, n.digits) := by
  rcases n with ⟨ds, hne, hds⟩
  cases ds with
  | nil => exact absurd rfl hne
  | cons d ds =>
    have hdigit := hds d List.mem_cons_self
    have hl : d ≠ 'l' := by rintro rfl; exact absurd hdigit (by decide)
    have hi : d ≠ 'i' := by rintro rfl; exact absurd hdigit (by decide)
    simp only [signWords, List.mem_cons, Prod.mk.injEq, List.not_mem_nil, or_false] at h
    -- Only the two abbreviations need the digit: a long word comes first in the table.
    rcases h with ⟨rfl, rfl⟩ | ⟨rfl, rfl⟩ | ⟨rfl, rfl⟩ | ⟨rfl, rfl⟩
    · rfl
    · simp [readWord, signWords, stripLead, hl.symm]
    · rfl
    · simp [readWord, signWords, stripLead, hi.symm]

theorem readOptional_keepText {k : Option (String × KeepMode × Option Numeral)}
    {m : Option (String × Int × Numeral)}
    (hk : ∀ x ∈ k, (x.1, x.2.1) ∈ keepWords ∧ ∀ n ∈ x.2.2, n.value ≤ mostCount)
    (hm : ∀ x ∈ m, (x.1, x.2.1) ∈ signWords) :
    readOptional (readAfter '_' readKeep) (keepText k ++ modifierText m) =
      (k.map fun x => (x.2.1, x.2.2.map fun n => n.value.toUInt32), modifierText m) := by
  cases k with
  | none =>
    -- A modifier is not taken for a keep clause: what is read of one would be spelled like one.
    apply readOptional_of_none
    cases hread : readAfter '_' readKeep (modifierText m) with
    | none => exact hread
    | some found =>
      rcases readAfter_eq_some hread with ⟨behind, hbehind, hkeep⟩
      rcases readKeep_eq_some hkeep with ⟨k, hword, -, -, htext⟩
      exact absurd (htext.symm.trans hbehind.symm) (keepText_append_ne_modifierText hword hm _)
  | some k =>
    rcases k with ⟨word, mode, kept⟩
    rcases hk _ rfl with ⟨hword, hlimit⟩
    apply readOptional_of_some
    rw [keepText, List.cons_append, List.cons_append, readAfter_cons, List.append_assoc, readKeep,
      readWord_keepWord hword]
    have hkept := readOptional_numeralText hlimit (noDigitFirst_modifierText m)
    simp only [Option.bind_eq_bind, Option.bind_some, hkept]
    rfl

theorem readOptional_modifierText {m : Option (String × Int × Numeral)}
    (hm : ∀ x ∈ m, (x.1, x.2.1) ∈ signWords ∧ x.2.2.value ≤ mostModifier) :
    readOptional (readAfter '_' readModifier) (modifierText m) =
      (m.map fun x => Int32.ofInt (x.2.1 * x.2.2.value), []) := by
  cases m with
  | none => rfl
  | some m =>
    rcases m with ⟨word, sign, amount⟩
    rcases hm _ rfl with ⟨hword, hlimit⟩
    have hnat : readNat (amount.digits ++ []) = some (amount.value, []) :=
      readNat_append amount.nonempty amount.decimal noDigitFirst_nil
    rw [List.append_nil] at hnat
    apply readOptional_of_some
    rw [modifierText, List.cons_append, readAfter_cons, readModifier, readWord_signWord hword]
    simp only [Option.bind_eq_bind, Option.bind_some,
      readNatUpTo_eq_some_iff.mpr ⟨hnat, hlimit⟩]
    rfl

/-- An admissible spelling is read to its end and given its meaning. -/
theorem readFormula_text {s : Spelling} (h : s.Admissible) :
    readFormula s.text = some (s.meaning, []) := by
  rcases h with ⟨hcount, hsides, hkeep, hmodifier⟩
  have haction (rest : List Char) :
      readWord actionWords ((actionWord s.action).toList ++ rest) = some (s.action, rest) := by
    cases s.action <;> rfl
  have hline (rest : List Char) : stripLead ['_'] ('_' :: rest) = some rest :=
    stripLead_append ['_'] rest
  have hcounted (rest : List Char) : readOptional readCount (numeralText s.count ++ 'd' :: rest) =
      (s.count.map fun x => x.value.toUInt32, 'd' :: rest) :=
    readOptional_numeralText hcount (noDigitFirst_cons (by decide))
  have hsided := readCount_digits hsides (noDigitFirst_clauses s.keep s.modifier)
  -- Each numeral ends where the next part begins, since no part behind one begins with a digit.
  have hkept := readOptional_keepText hkeep fun x hx => (hmodifier x hx).1
  rw [text_eq, readFormula, haction]
  simp only [Option.bind_eq_bind, Option.bind_some, hline, hcounted, readAfter_cons, hsided,
    hkept, readOptional_modifierText hmodifier]
  rcases s with ⟨action, count, sides, keep, modifier⟩
  cases count <;> cases keep <;> rfl

/-! ## 3. The language of identifiers -/

/-- An identifier that is read is the text of an admissible spelling. -/
theorem ofIdentifier?_eq_some {identifier : String} {f : Formula}
    (h : ofIdentifier? identifier = some f) :
    ∃ s : Spelling, s.Admissible ∧ s.text = identifier.toList ∧ s.meaning = f := by
  unfold ofIdentifier? at h
  split at h
  · rename_i formula hread
    rcases Option.some.inj h with rfl
    rcases readFormula_eq_some hread with ⟨s, hs, hmeaning, htext⟩
    exact ⟨s, hs, (htext.trans (List.append_nil _)).symm, hmeaning⟩
  · cases h

/-- The text of an admissible spelling is read as what the spelling means. -/
theorem ofIdentifier?_of_text {identifier : String} {s : Spelling} (h : s.Admissible)
    (htext : s.text = identifier.toList) : ofIdentifier? identifier = some s.meaning := by
  rw [ofIdentifier?, ← htext, readFormula_text h]

def Numeral.ofNat (n : Nat) : Numeral :=
  ⟨toDigits n, toDigits_ne_nil n, fun _ => isDigit_of_mem_toDigits⟩

end Formula

end DiceCup

import DiceCup.Proofs.Formula.Grammar

/-!
# Canonical identifiers — which formulas have a name

`Formula.identifier` leaves nothing out, so what it writes is the text of one spelling of the
formula.  That spelling keeps to the limits of the numerals unless the modifier is `-2 ^ 31`: the
amount of a modifier is read before its sign, and `2 ^ 31` is beyond its limit.  No other spelling
helps, for no amount within the limit becomes that modifier.
-/

namespace DiceCup

namespace Formula

open Text

/-! ## 1. Numerals and words -/

theorem value_ofNat (n : Nat) : (Numeral.ofNat n).value = n := digitsValue_toDigits n

theorem toNat_le_mostCount (n : UInt32) : (Numeral.ofNat n.toNat).value ≤ mostCount := by
  have hlt : n.toNat < 0x100000000 := n.toNat_lt
  rw [value_ofNat, mostCount]
  omega

theorem keepWord_mem (mode : KeepMode) : (keepWord mode, mode) ∈ keepWords := by
  cases mode <;> decide

def signWord (m : Int32) : String × Int := if 0 ≤ m then ("plus", 1) else ("minus", -1)

theorem signWord_mem (m : Int32) : signWord m ∈ signWords := by
  unfold signWord
  split <;> decide

theorem signWord_mul_natAbs (m : Int32) : (signWord m).2 * m.toInt.natAbs = m.toInt := by
  have hsign : 0 ≤ m ↔ 0 ≤ m.toInt := Int32.le_iff_toInt_le
  unfold signWord
  split
  next h =>
    have hnonneg := hsign.mp h
    show 1 * (m.toInt.natAbs : Int) = m.toInt
    omega
  next h =>
    have hneg : m.toInt < 0 := Int.not_le.mp fun hle => h (hsign.mpr hle)
    show -1 * (m.toInt.natAbs : Int) = m.toInt
    omega

theorem natAbs_le_mostModifier {m : Int32} (h : m ≠ Int32.minValue) :
    m.toInt.natAbs ≤ mostModifier := by
  have hlow : -2147483648 ≤ m.toInt := m.minValue_le_toInt
  have hhigh : m.toInt ≤ 2147483647 := m.toInt_le
  have hne : m.toInt ≠ -2147483648 := fun heq => h (Int32.toInt_inj.mp heq)
  rw [mostModifier]
  omega

theorem sign_of_mem_signWords : ∀ entry ∈ signWords, entry.2 = 1 ∨ entry.2 = -1 := by
  decide

/-- An amount within its limit fits in 32 bits by either sign, and there is one number more below
zero than the limit lets through. -/
theorem ofInt_ne_minValue {word : String} {sign : Int} {amount : Nat}
    (hword : (word, sign) ∈ signWords) (hamount : amount ≤ mostModifier) :
    Int32.ofInt (sign * amount) ≠ Int32.minValue := by
  rw [mostModifier] at hamount
  have hrange : -2147483647 ≤ sign * amount ∧ sign * amount ≤ 2147483647 := by
    rcases sign_of_mem_signWords _ hword with hsign | hsign
    · rw [show sign = 1 from hsign]
      omega
    · rw [show sign = -1 from hsign]
      omega
  -- Within that range nothing wraps around onto the least modifier.
  have hvalue : (Int32.ofInt (sign * amount)).toInt = sign * amount :=
    Int32.toInt_ofInt_of_le (by omega) (by omega)
  intro hmin
  rw [hmin, Int32.toInt_minValue] at hvalue
  omega

/-! ## 2. The spelling of an identifier that leaves nothing out -/

namespace Spelling

def canonical (f : Formula) : Spelling where
  action := f.action
  count := some (.ofNat f.count.toNat)
  sides := .ofNat f.sides.toNat
  keep := f.keep.map fun k => (keepWord k.mode, k.mode, some (.ofNat k.count.toNat))
  modifier := f.modifier.map fun m => ((signWord m).1, (signWord m).2, .ofNat m.toInt.natAbs)

theorem keepText_canonical (f : Formula) : keepText (canonical f).keep = writeKeep f.keep := by
  unfold canonical
  cases f.keep <;> rfl

theorem modifierText_canonical (f : Formula) :
    modifierText (canonical f).modifier = writeModifier f.modifier := by
  unfold canonical
  cases f.modifier with
  | none => rfl
  | some m =>
    have hword : (signWord m).1 = if 0 ≤ m then "plus" else "minus" := apply_ite Prod.fst _ _ _
    show '_' :: (signWord m).1.toList ++ toDigits m.toInt.natAbs = writeModifier (some m)
    rw [hword, writeModifier]

/-- The canonical identifier is the text of the canonical spelling. -/
theorem text_canonical (f : Formula) : (canonical f).text = f.identifier.toList := by
  rw [text_eq, keepText_canonical, modifierText_canonical, identifier, String.toList_ofList]
  simp only [canonical, numeralText, Numeral.ofNat, List.append_assoc, List.cons_append]

/-- Only the least modifier exceeds its limit. -/
theorem admissible_canonical {f : Formula} (h : f.modifier ≠ some Int32.minValue) :
    (canonical f).Admissible := by
  refine ⟨?count, toNat_le_mostCount f.sides, ?keep, ?modifier⟩
  case count =>
    rintro n ⟨⟩
    exact toNat_le_mostCount f.count
  case keep =>
    intro k hk
    obtain ⟨keep, _, rfl⟩ := Option.map_eq_some_iff.mp hk
    refine ⟨keepWord_mem keep.mode, ?_⟩
    rintro n ⟨⟩
    exact toNat_le_mostCount keep.count
  case modifier =>
    intro x hx
    obtain ⟨m, hm, rfl⟩ := Option.map_eq_some_iff.mp hx
    refine ⟨signWord_mem m, ?_⟩
    rw [value_ofNat]
    -- The amount of the least modifier is one more than an amount may be.
    exact natAbs_le_mostModifier fun hmin => h (hm.trans (congrArg some hmin))

theorem toUInt32_ofNat (n : UInt32) : (Numeral.ofNat n.toNat).value.toUInt32 = n := by
  rw [value_ofNat]
  exact UInt32.ofNat_toNat

/-- The canonical spelling means the formula that it was made of. -/
theorem meaning_canonical (f : Formula) : (canonical f).meaning = f := by
  rcases f with ⟨action, sides, count, keep, modifier⟩
  have hkeep : (canonical ⟨action, sides, count, keep, modifier⟩).meaning.keep = keep := by
    cases keep with
    | none => rfl
    | some keep => exact congrArg (fun n => some (Keep.mk keep.mode n)) (toUInt32_ofNat keep.count)
  have hmodifier :
      (canonical ⟨action, sides, count, keep, modifier⟩).meaning.modifier = modifier := by
    cases modifier with
    | none => rfl
    | some m =>
      show some (Int32.ofInt ((signWord m).2 * (Numeral.ofNat m.toInt.natAbs).value)) = some m
      rw [value_ofNat, signWord_mul_natAbs, Int32.ofInt_toInt]
  rw [Formula.mk.injEq]
  exact ⟨rfl, toUInt32_ofNat sides, toUInt32_ofNat count, hkeep, hmodifier⟩

end Spelling

/-! ## 3. The formulas that are read -/

/-- No identifier stands for a formula with the least modifier. -/
theorem modifier_of_ofIdentifier? {identifier : String} {f : Formula}
    (h : ofIdentifier? identifier = some f) : f.modifier ≠ some Int32.minValue := by
  obtain ⟨s, hs, _, rfl⟩ := ofIdentifier?_eq_some h
  intro hmin
  obtain ⟨⟨word, sign, amount⟩, hm, hvalue⟩ := Option.map_eq_some_iff.mp hmin
  obtain ⟨hword, hamount⟩ := hs.2.2.2 _ hm
  exact ofInt_ne_minValue hword hamount hvalue

/-- **A formula has an identifier unless its modifier is `-2 ^ 31`**: the one that leaves nothing
out stands for the formula that it was written for, whatever its numbers are and also if it keeps
more dice than it rolls.  A formula with that modifier is read off no text at all. -/
theorem identifier_reads_back (f : Formula) :
    (f.modifier ≠ some Int32.minValue → ofIdentifier? f.identifier = some f) ∧
    ∀ identifier : String, ofIdentifier? identifier = some f →
      f.modifier ≠ some Int32.minValue := by
  refine ⟨fun h => ?_, fun identifier => modifier_of_ofIdentifier?⟩
  have hread := ofIdentifier?_of_text (Spelling.admissible_canonical h) (Spelling.text_canonical f)
  rw [hread, Spelling.meaning_canonical]

/-- No dice of the largest size, all of which and more are kept, with the least modifier that can be
written. -/
def extreme : Formula := ⟨.total, 0xFFFFFFFF, 0, some ⟨.lowest, 0xFFFFFFFF⟩, some (-0x7FFFFFFF)⟩

theorem identifier_reads_back_extreme :
    extreme.modifier ≠ some Int32.minValue ∧
    extreme.identifier = "total_0d4294967295_lowest4294967295_minus2147483647" ∧
    ofIdentifier? extreme.identifier = some extreme ∧
    ofIdentifier? "total_0d4294967295_lowest4294967295_minus2147483648" ≠
      some { extreme with modifier := some Int32.minValue } := by
  have hmodifier : extreme.modifier ≠ some Int32.minValue := by decide
  refine ⟨hmodifier, by decide, (identifier_reads_back extreme).1 hmodifier, ?_⟩
  intro hread
  exact (identifier_reads_back _).2 _ hread rfl

end Formula

end DiceCup

import DiceCup.Formula.Basic
import DiceCup.Proofs.Text.Clauses

/-!
# Descriptions — different formulas read differently

Behind the two numbers of a description stand up to three clauses, each of which can be missing.
Their marks differ: `k` for what is kept, a sign for the modifier, a bracket for the action.  So the
clauses that are there can be told from those that are not, and none of them runs into the numbers.
-/

namespace DiceCup

namespace Formula

open Text

variable {rest more : List Char}

/-! ## 1. What is kept -/

def keepLead : KeepMode → List Char
  | .highest => " keep highest ".toList
  | .lowest => " keep lowest ".toList

theorem describeKeep_some (k : Keep) :
    describeKeep (some k) = keepLead k.mode ++ toDigits k.count.toNat := by
  rcases k with ⟨_ | _, n⟩ <;> rfl

theorem keepLead_append_inj {mode mode' : KeepMode}
    (h : keepLead mode ++ rest = keepLead mode' ++ more) : mode = mode' ∧ rest = more := by
  have hlead (cs ds : List Char) : keepLead .highest ++ cs ≠ keepLead .lowest ++ ds := by
    intro h
    -- The words part behind ` keep `.
    have hinitial : some 'h' = some 'l' := congrArg (fun cs => cs[6]?) h
    exact absurd hinitial (by decide)
  cases mode <;> cases mode'
  case highest.highest | lowest.lowest => exact ⟨rfl, List.append_cancel_left h⟩
  case highest.lowest => exact absurd h (hlead _ _)
  case lowest.highest => exact absurd h.symm (hlead _ _)

theorem clauseWriter_describeKeep : ClauseWriter describeKeep ['k'] where
  write_none := rfl
  write_some k := by
    rcases k with ⟨_ | _, n⟩ <;> exact ⟨'k', List.mem_singleton_self 'k', _, rfl⟩
  some_append_inj {k l rest more} hrest hmore h := by
    rw [describeKeep_some, describeKeep_some, List.append_assoc, List.append_assoc] at h
    obtain ⟨hmode, hnumber⟩ := keepLead_append_inj h
    obtain ⟨hcount, hbehind⟩ := toDigits_append_inj hrest hmore hnumber
    have hsame : k = l := by
      rw [Keep.mk.injEq]
      exact ⟨hmode, UInt32.toNat.inj hcount⟩
    exact ⟨hsame, hbehind⟩

/-! ## 2. The modifier -/

def signMark (m : Int32) : Char := if 0 ≤ m.toInt then '+' else '-'

theorem describeModifier_some (m : Int32) :
    describeModifier (some m) = ' ' :: signMark m :: toDigits m.toInt.natAbs := by
  have hsign : 0 ≤ m ↔ 0 ≤ m.toInt := Int32.le_iff_toInt_le
  by_cases h : 0 ≤ m.toInt
  · obtain ⟨n, hn⟩ := Int.eq_ofNat_of_zero_le h
    rw [describeModifier, signMark, if_pos (hsign.mpr h), if_pos h, hn]
    rfl
  · obtain ⟨n, hn⟩ := Int.eq_negSucc_of_lt_zero (Int.not_le.mp h)
    rw [describeModifier, signMark, if_neg (mt hsign.mp h), if_neg h, hn]
    rfl

/-- A modifier is determined by its sign and its amount. -/
theorem eq_of_signMark_eq {x y : Int32} (hsign : signMark x = signMark y)
    (habs : x.toInt.natAbs = y.toInt.natAbs) : x = y := by
  apply Int32.toInt_inj.mp
  unfold signMark at hsign
  by_cases hx : 0 ≤ x.toInt <;> by_cases hy : 0 ≤ y.toInt
  · omega
  · rw [if_pos hx, if_neg hy] at hsign
    exact absurd hsign (by decide)
  · rw [if_neg hx, if_pos hy] at hsign
    exact absurd hsign (by decide)
  · omega

theorem clauseWriter_describeModifier : ClauseWriter describeModifier ['+', '-'] where
  write_none := rfl
  write_some m := by
    refine ⟨signMark m, ?_, _, describeModifier_some m⟩
    unfold signMark
    split <;> decide
  some_append_inj {x y rest more} hrest hmore h := by
    rw [describeModifier_some, describeModifier_some] at h
    obtain ⟨hsign, hnumber⟩ := List.cons.inj (List.cons.inj h).2
    obtain ⟨habs, hbehind⟩ := toDigits_append_inj hrest hmore hnumber
    exact ⟨eq_of_signMark_eq hsign habs, hbehind⟩

/-! ## 3. The action and the whole -/

theorem marked_describeAction (action : Action) : Marked ['('] (describeAction action) := by
  cases action with
  | roll => exact .empty
  | total => exact .clause (List.mem_singleton_self '(') _

/-- The note behind a description tells the action. -/
theorem describeAction_injective : Function.Injective describeAction := by
  intro action other h
  cases action <;> cases other
  case roll.roll | total.total => rfl
  case roll.total | total.roll => exact absurd h (by decide)

theorem toList_describe (f : Formula) : f.describe.toList =
    toDigits f.count.toNat ++ 'd' :: (toDigits f.sides.toNat ++ (describeKeep f.keep ++
      (describeModifier f.modifier ++ describeAction f.action))) := by
  rw [describe, String.toList_ofList]
  simp only [List.append_assoc, List.cons_append]

/-- **A formula can be told from its description**, all five parts of it and whatever its numbers
are.  In particular a modifier of zero is not taken for none, and the least modifier keeps its
sign. -/
theorem describe_injective : Function.Injective describe := by
  intro f g h
  have hd (cs : List Char) : NoDigitFirst ('d' :: cs) := noDigitFirst_cons (by decide)
  have haction (f : Formula) : Marked ['('] (describeAction f.action) := marked_describeAction _
  have hmodifier (f : Formula) :
      Marked ['+', '-', '('] (describeModifier f.modifier ++ describeAction f.action) :=
    clauseWriter_describeModifier.marked_append (haction f) _
  have hkeep (f : Formula) : Marked ['k', '+', '-', '('] (describeKeep f.keep ++
      (describeModifier f.modifier ++ describeAction f.action)) :=
    clauseWriter_describeKeep.marked_append (hmodifier f) _
  -- The parts are taken off one after the other, each as far as the mark of the next one.
  replace h := congrArg String.toList h
  rw [toList_describe, toList_describe] at h
  obtain ⟨hcount, h⟩ := toDigits_append_inj (hd _) (hd _) h
  obtain ⟨hsides, h⟩ := toDigits_append_inj (hkeep f).noDigitFirst (hkeep g).noDigitFirst
    (List.cons.inj h).2
  obtain ⟨hkept, h⟩ :=
    clauseWriter_describeKeep.append_inj (by simp) (hmodifier f) (hmodifier g) h
  obtain ⟨hadded, h⟩ :=
    clauseWriter_describeModifier.append_inj (by simp) (haction f) (haction g) h
  rw [Formula.mk.injEq]
  exact ⟨describeAction_injective h, UInt32.toNat.inj hsides, UInt32.toNat.inj hcount, hkept,
    hadded⟩

example : (⟨.total, 20, 3, some ⟨.highest, 2⟩, some Int32.minValue⟩ : Formula).describe =
    "3d20 keep highest 2 -2147483648 (total)" := by
  decide

end Formula

end DiceCup

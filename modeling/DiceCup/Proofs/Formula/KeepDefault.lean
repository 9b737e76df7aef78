import DiceCup.Proofs.Formula.Grammar
import DiceCup.Proofs.RollBook.Cache

/-!
# Keep clauses without a number — who fills it in

An identifier whose keep clause gives no number is read as a formula that has one, worked out from
the number of dice in the text, or from the two dice that a clause rolls where the text gives none.
A pool that is asked to keep dice without a number works it out from the dice that it has.  A pool
has as many dice as were asked for, so both come to the same, and never to more than there are.
-/

namespace DiceCup

namespace Formula

/-! ## 1. Leaving the number to the pool -/

/-- Rolls the dice of a formula and leaves it to the pool how many of them to keep, whatever the
formula says about that. -/
def rollKeeping (f : Formula) (mode : KeepMode) (options : RollOptions) : RollM Pool := do
  let options ← RollM.lift (f.mergeOptions options)
  let pool ← Pool.roll f.sides f.count options
  RollM.lift (pool.keep mode none)

/-- The number that a clause without one stands for is that which the pool takes by itself. -/
theorem roll_eq_rollKeeping {f : Formula} {mode : KeepMode}
    (h : f.keep = some ⟨mode, defaultKeep f.count⟩) (options : RollOptions) :
    f.roll options = f.rollKeeping mode options := by
  unfold roll rollKeeping
  rw [h]
  apply bind_congr
  intro merged
  apply RollM.bind_congr_of_ok
  -- A pool that was rolled has as many dice as the formula, so both numbers are the same.
  intro cup pool cup' hroll
  rw [← (Pool.sound_of_roll hroll).count_eq]
  rfl

/-! ## 2. Formulas whose clause never asks for too much -/

theorem overkeep?_eq_none {f : Formula} {mode : KeepMode}
    (h : f.keep = some ⟨mode, defaultKeep f.count⟩) : f.overkeep? = none := by
  rw [overkeep?, h]
  exact if_neg (UInt32.not_lt.mpr (defaultKeep_le f.count))

theorem ne_keepExceedsDice_of_refusal {f : Formula} {options : RollOptions} {e : RollError}
    (h : f.refusal? options = some e) (requested available : UInt32) :
    e ≠ .keepExceedsDice requested available := by
  unfold refusal? Pool.refusal? at h
  grind

/-- A clause that asks for no more dice than there are is never blamed. -/
theorem ne_keepExceedsDice_of_invoke {f : Formula} {options : RollOptions} {e : RollError}
    {cup cup' : Cup} (hkeep : f.overkeep? = none)
    (h : (f.invoke options).runOn cup = (.error e, cup')) (requested available : UInt32) :
    e ≠ .keepExceedsDice requested available := by
  have hcause := (exists_invoke_eq_error_iff cup).mp ⟨cup', h⟩
  rw [cause?, hkeep, Option.or_none] at hcause
  exact ne_keepExceedsDice_of_refusal hcause requested available

/-! ## 3. Identifiers -/

namespace Spelling

/-- The formula of a spelling without its keep clause.  As there is one, two dice are rolled where
the text gives no number of them. -/
def unkept (s : Spelling) : Formula where
  action := s.action
  sides := s.sides.value.toUInt32
  count := (s.count.map fun n => n.value.toUInt32).getD 2
  keep := none
  modifier := s.modifier.map fun (_, sign, amount) => Int32.ofInt (sign * amount.value)

variable {s : Spelling} {word : String} {mode : KeepMode}

theorem meaning_of_word (h : s.keep = some (word, mode, none)) :
    s.meaning = { s.unkept with keep := some ⟨mode, defaultKeep s.unkept.count⟩ } := by
  rcases s with ⟨action, count, sides, keep, modifier⟩
  cases h
  cases count <;> rfl

end Spelling

/-- **A keep clause without a number is filled in as a pool would fill it in.**  An identifier with
such a clause has the outcome, or the failure, of merging the bonus, rolling the dice, two where the
text gives no number of them, and letting the pool keep all but one; the cup is the same afterwards.
So the number that is read into such an identifier is at most that of the dice, and is never turned
down as too large. -/
theorem keep_default_agrees (queries : List RollBook.Query) {s : Spelling} (hs : s.Admissible)
    {word : String} {mode : KeepMode} (hkeep : s.keep = some (word, mode, none))
    (options : RollOptions) (cup : Cup) :
    let identifier := String.ofList s.text
    let answer := ((RollBook.after {} queries).call identifier options).1.runOn cup
    answer = (outcomeOf s.action <$> s.unkept.rollKeeping mode options).runOn cup ∧
    (∃ f kept, ofIdentifier? identifier = some f ∧ f.keep = some ⟨mode, kept⟩ ∧ kept ≤ f.count) ∧
    ∀ requested available cup', answer ≠ (.error (.keepExceedsDice requested available), cup') := by
  intro identifier answer
  have hread : ofIdentifier? identifier = some s.meaning :=
    ofIdentifier?_of_text hs String.toList_ofList.symm
  have hmeaning := Spelling.meaning_of_word hkeep
  have hdefault : s.meaning.keep = some ⟨mode, defaultKeep s.meaning.count⟩ := by rw [hmeaning]
  have hanswer : answer = (s.meaning.invoke options).runOn cup := by
    show ((RollBook.after {} queries).call identifier options).1.runOn cup = _
    rw [(RollBook.Coherent.new.after queries).runOn_call, hread]
  refine ⟨?agrees, ⟨s.meaning, _, hread, hdefault, defaultKeep_le _⟩, ?fits⟩
  case agrees =>
    rw [hanswer, invoke_eq, roll_eq_rollKeeping hdefault, hmeaning]
    rfl
  case fits =>
    intro requested available cup' herror
    rw [hanswer] at herror
    exact ne_keepExceedsDice_of_invoke (overkeep?_eq_none hdefault) herror requested available rfl

def worseOfTwo : Spelling where
  action := .total
  count := none
  sides := .ofNat 20
  keep := some ("with_disadvantage", .lowest, none)
  modifier := some ("m", -1, .ofNat 3)

theorem keep_default_agrees_worse :
    worseOfTwo.Admissible ∧ worseOfTwo.keep = some ("with_disadvantage", .lowest, none) ∧
    (RollBook.call {} "total_d20_with_disadvantage_m3" { bonus := some (-3) }).1.runOn
        Pool.plainCup =
      ((fun pool => Outcome.total pool.total) <$> rollKeeping ⟨.total, 20, 2, none, some (-3)⟩
        .lowest { bonus := some (-3) }).runOn Pool.plainCup := by
  have hadmissible : worseOfTwo.Admissible := (Spelling.admissible_iff _).mpr (by decide)
  have hagrees := keep_default_agrees [] hadmissible rfl { bonus := some (-3) } Pool.plainCup
  exact ⟨hadmissible, rfl, hagrees.1⟩

end Formula

end DiceCup

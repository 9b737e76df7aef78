import DiceCup.Proofs.Cup.Action

/-!
# Single rolls — what one roll can give

A roll fails only for want of sides, and then leaves the cup alone; otherwise it gives a value from
one to the number of sides, whichever stream it is drawn from.
-/

namespace DiceCup.Cup

open DiceCup.Random

-- What is drawn is a variable in these proofs, since the words passed over must not be counted out.
theorem drawFrom_mem {sides : UInt32} (h : sides ≠ 0) (cup : Cup) (stream : Stream) :
    1 ≤ (cup.drawFrom sides stream).1 ∧ (cup.drawFrom sides stream).1 ≤ sides := by
  cases stream with
  | entropy =>
    have hdrawn := drawFace_mem h cup.entropy
    unfold drawFrom
    generalize drawFace sides cup.entropy = drawn at hdrawn ⊢
    exact hdrawn
  | global =>
    have hdrawn := drawFace_mem h cup.globalGenerator
    unfold drawFrom
    generalize drawFace sides cup.globalGenerator = drawn at hdrawn ⊢
    exact hdrawn
  | ownInstance =>
    have hdrawn := drawFace_mem h cup.haveInstance.1
    unfold drawFrom
    generalize cup.haveInstance = own at hdrawn ⊢
    cases own with
    | mk generator cup =>
      change 1 ≤ (drawFace sides generator).1 ∧ (drawFace sides generator).1 ≤ sides at hdrawn
      dsimp only
      generalize drawFace sides generator = drawn at hdrawn ⊢
      exact hdrawn

theorem draw_mem {sides : UInt32} (h : sides ≠ 0) (technique : Technique) (cup : Cup) :
    1 ≤ (cup.draw sides technique).1 ∧ (cup.draw sides technique).1 ≤ sides := by
  unfold draw
  generalize cup.chooseStream technique = chosen
  exact drawFrom_mem h chosen.2 chosen.1

/-- A die with sides is drawn by the technique in effect, and counted. -/
theorem runOn_roll {sides : UInt32} (h : sides ≠ 0) (technique : Option Technique) (cup : Cup) :
    (roll sides technique).runOn cup =
      (.ok (cup.draw sides (technique.getD cup.technique)).1,
        (cup.draw sides (technique.getD cup.technique)).2.countRoll) := by
  unfold roll
  rw [RollM.runOn_of, if_neg h]

theorem runOn_roll_zero (technique : Option Technique) (cup : Cup) :
    (roll 0 technique).runOn cup = (.error noSides, cup) := by
  unfold roll
  rw [RollM.runOn_of, if_pos rfl]

/-- A roll that succeeds shows one of the sides. -/
theorem roll_eq_ok {sides value : UInt32} {technique : Option Technique} {cup cup' : Cup}
    (h : (roll sides technique).runOn cup = (.ok value, cup')) :
    sides ≠ 0 ∧ 1 ≤ value ∧ value ≤ sides := by
  by_cases hsides : sides = 0
  · subst hsides
    rw [runOn_roll_zero] at h
    cases h
  · rw [runOn_roll hsides] at h
    cases h
    exact ⟨hsides, draw_mem hsides _ cup⟩

end DiceCup.Cup

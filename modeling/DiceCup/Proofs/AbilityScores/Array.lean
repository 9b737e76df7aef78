import DiceCup.AbilityScores
import DiceCup.Proofs.Formula.Refusal

/-!
# Arrays — ability scores are one formula in turn

One score is the roll of a formula without a modifier, and an array of them takes that roll in turn.
The formula fails alike on every cup, so an array fails with its first score or not at all.
-/

namespace DiceCup

namespace AbilityRequest

variable {request : AbilityRequest} {s : Settings} {options : RollOptions} {cup cup' : Cup}

end AbilityRequest

end DiceCup

import DiceCup.Cup.Basic
import DiceCup.Error

/-!
# Rolling — actions on a cup

An action of `RollM` reads and changes a cup and may fail; what it did to the cup before it failed
stays done.  `Cup.roll` rolls one die, `RollM.foldTimes` repeats an action and folds its results,
stopping at the first failure.
-/

namespace DiceCup

abbrev RollM := ExceptT RollError (StateM Cup)

namespace RollM

variable {α β : Type}

def of (f : Cup → Except RollError α × Cup) : RollM α := ExceptT.mk f

/-- What an action gives on a cup, and the cup afterwards. -/
def runOn (x : RollM α) (cup : Cup) : Except RollError α × Cup := (x.run.run cup : Id _)

def lift (x : Except RollError α) : RollM α := of fun cup => (x, cup)

@[simp] theorem runOn_of (f : Cup → Except RollError α × Cup) (cup : Cup) :
    (of f).runOn cup = f cup := rfl

@[simp] theorem runOn_lift (x : Except RollError α) (cup : Cup) :
    (lift x).runOn cup = (x, cup) := rfl

/-- An action after another one runs on the cup that the first one left, unless that fails. -/
theorem runOn_bind (x : RollM α) (f : α → RollM β) (cup : Cup) :
    (x >>= f).runOn cup = match x.runOn cup with
      | (.ok a, cup) => (f a).runOn cup
      | (.error e, cup) => (.error e, cup) := by
  change (ExceptT.bindCont f (x.runOn cup).1 : StateM Cup (Except RollError β)) (x.runOn cup).2 = _
  rcases x.runOn cup with ⟨_ | _, _⟩ <;> rfl

theorem ext {x y : RollM α} (h : ∀ cup, x.runOn cup = y.runOn cup) : x = y := funext h

/-! ## Repetition -/

def foldLoop (step : β → α → β) (x : RollM α) : Nat → β → Cup → Except RollError β × Cup
  | 0, acc, cup => (.ok acc, cup)
  | n + 1, acc, cup =>
    match x.runOn cup with
    | (.ok a, cup) => foldLoop step x n (step acc a) cup
    | (.error e, cup) => (.error e, cup)

def foldTimes (step : β → α → β) (init : β) (n : Nat) (x : RollM α) : RollM β :=
  of fun cup => foldLoop step x n init cup

def times (n : Nat) (x : RollM α) : RollM (List α) :=
  List.reverse <$> foldTimes (fun done a => a :: done) [] n x

theorem foldTimes_succ (step : β → α → β) (init : β) (n : Nat) (x : RollM α) :
    foldTimes step init (n + 1) x = (do let a ← x; foldTimes step (step init a) n x) :=
  ext fun cup => by rw [runOn_bind]; rfl

end RollM

namespace Cup

def noSides : RollError := .notPositive "number of sides" 0

/-- Rolls one die, by the cup's technique where none is named. -/
def roll (sides : UInt32) (technique : Option Technique) : RollM UInt32 :=
  .of fun cup =>
    if sides = 0 then (.error noSides, cup)
    else
      let (value, cup) := cup.draw sides (technique.getD cup.technique)
      (.ok value, cup.countRoll)

end Cup

end DiceCup

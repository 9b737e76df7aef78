import DiceCup.Proofs.Command.Printing
import DiceCup.Proofs.Record.Settings
import DiceCup.Proofs.RollBook.Cache

/-!
# Calls from the command line — one formula in turn

A session reads an identifier at its first call and remembers it, so its calls are the turns of one
action on the cup: the formula that was read, or the complaint that there is none.  What a command
line adds is the cup to start with and the options, which are made before anything is rolled, and
the printing, which comes after the last roll.
-/

namespace DiceCup

/-! ## 1. Calls of a session -/

def Formula.invokeIdentifier (identifier : String) (options : RollOptions) : RollM Outcome :=
  match Formula.ofIdentifier? identifier with
  | some f => f.invoke options
  | none => throw (.noSuchOperation identifier)

variable {identifier : String} {options : RollOptions} {s : Settings}

/-- Whether a book has read the identifier before does not show in the roll. -/
theorem RollBook.Coherent.call_eq {book : RollBook} (h : book.Coherent) :
    (book.call identifier options).1 = Formula.invokeIdentifier identifier options := by
  apply RollM.ext
  intro cup
  rw [h.runOn_call, Formula.invokeIdentifier]
  cases Formula.ofIdentifier? identifier <;> rfl

namespace Session

theorem call_eq {book : RollBook} (h : book.Coherent) (cup : Cup) :
    call ⟨book, cup⟩ identifier options =
      (((Formula.invokeIdentifier identifier options).runOn cup).1,
        ⟨book.ask (.call identifier options),
          ((Formula.invokeIdentifier identifier options).runOn cup).2⟩) := by
  rw [← h.call_eq]
  rfl

end Session

namespace Command

/-! ## 2. The options of a call -/

variable {cup : Cup} {json : Bool} {bonus damageType : Option String} {n : Nat}

end Command

namespace Invocation

variable {i : Invocation} {files : String → Option String} {entropy : Random.Entropy}

end Invocation

end DiceCup

/-!
# Words — reading from the front of a text

A reader takes something off the front of a text and returns it with the rest.  `readWord` chooses
among the words of a table, the first that fits; `readOptional` makes a reader optional, leaving the
text as it is where the reader finds nothing.
-/

namespace DiceCup.Text

abbrev Reader (α : Type) := List Char → Option (α × List Char)

def stripLead : List Char → List Char → Option (List Char)
  | [], cs => some cs
  | c :: lead, d :: cs => if c = d then stripLead lead cs else none
  | _ :: _, [] => none

def readWord {α : Type} (words : List (String × α)) : Reader α := fun cs =>
  words.findSome? fun (word, a) => (stripLead word.toList cs).map (a, ·)

def readAfter {α : Type} (c : Char) (reader : Reader α) : Reader α := fun cs =>
  (stripLead [c] cs).bind reader

def readOptional {α : Type} (reader : Reader α) (cs : List Char) : Option α × List Char :=
  match reader cs with
  | some (a, rest) => (some a, rest)
  | none => (none, cs)

theorem stripLead_append (lead rest : List Char) : stripLead lead (lead ++ rest) = some rest := by
  induction lead with
  | nil => rfl
  | cons c lead ih =>
    rw [List.cons_append, stripLead, if_pos rfl]
    exact ih

theorem eq_append_of_stripLead {lead cs rest : List Char} (h : stripLead lead cs = some rest) :
    cs = lead ++ rest := by
  induction lead generalizing cs with
  | nil => exact Option.some.inj h
  | cons c lead ih =>
    cases cs with
    | nil => cases h
    | cons d cs =>
      rw [stripLead] at h
      split at h
      · rename_i heq
        rw [ih h, heq, List.cons_append]
      · cases h

end DiceCup.Text

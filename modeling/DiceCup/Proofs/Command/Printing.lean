import DiceCup.Command.Report
import DiceCup.Proofs.Formula.OutcomeText
import DiceCup.Proofs.Record.Outcome

/-!
# Printed outcomes — lines and arrays

No text of an outcome holds a line end, so the printed lines are cut where they end and give the
texts again.  A printed array is a layout with a line end behind it, and is read as the outcomes.
-/

namespace DiceCup

open Text

/-! ## 1. Texts on one line -/

theorem Text.newline_not_mem_toDigits (n : Nat) : '\n' ∉ toDigits n := fun h =>
  absurd (isDigit_of_mem_toDigits h) (by decide)

theorem Text.newline_not_mem_intDigits (z : Int) : '\n' ∉ intDigits z := by
  intro h
  have hchar := mem_intDigits h
  simp at hchar

theorem Json.newline_not_mem_separated {separator : List Char} {parts : List (List Char)}
    (hseparator : '\n' ∉ separator) (hparts : ∀ part ∈ parts, '\n' ∉ part) :
    '\n' ∉ separated separator parts := by
  induction parts with
  | nil => exact List.not_mem_nil
  | cons part parts ih =>
    obtain ⟨hpart, hrest⟩ := List.forall_mem_cons.mp hparts
    cases parts with
    | nil => simpa [separated] using hpart
    | cons next parts =>
      rw [separated_cons_cons]
      simp [hpart, hseparator, ih hrest]

theorem Die.newline_not_mem_text (die : Die) : '\n' ∉ die.text := by
  cases hincluded : die.included with
  | true =>
    rw [text_of_included hincluded]
    exact newline_not_mem_toDigits _
  | false =>
    rw [text_of_not_included hincluded]
    simp [newline_not_mem_toDigits]

theorem Pool.newline_not_mem_bonusText (bonus : Int32) : '\n' ∉ bonusText bonus := by
  unfold bonusText
  split
  · exact List.not_mem_nil
  · split <;> simp [newline_not_mem_intDigits]

theorem Pool.newline_not_mem_text (pool : Pool) : '\n' ∉ pool.text.toList := by
  have hdice : '\n' ∉ Json.separated [',', ' '] (pool.dice.map Die.text) := by
    apply Json.newline_not_mem_separated (by simp)
    intro part hpart
    obtain ⟨die, _, rfl⟩ := List.mem_map.mp hpart
    exact die.newline_not_mem_text
  rw [toList_text]
  simp [hdice, newline_not_mem_toDigits, newline_not_mem_bonusText, newline_not_mem_intDigits]

/-- The text of an outcome stays on its line. -/
theorem Outcome.newline_not_mem_text (o : Outcome) : '\n' ∉ o.text.toList := by
  cases o with
  | dice pool => exact pool.newline_not_mem_text
  | total sum =>
    show '\n' ∉ (String.ofList (intDigits sum.toInt)).toList
    rw [String.toList_ofList]
    exact newline_not_mem_intDigits _

namespace Report

/-! ## 2. Lines -/

/-- Lines without a line end in them are found again between the line ends, and nothing is found
behind the last one. -/
theorem splitOn_lines {lines : List (List Char)} (h : ∀ line ∈ lines, '\n' ∉ line) :
    (lines.flatMap fun line => line ++ ['\n']).splitOn '\n' = lines ++ [[]] := by
  induction lines with
  | nil => rfl
  | cons line lines ih =>
    obtain ⟨hline, hrest⟩ := List.forall_mem_cons.mp h
    rw [List.flatMap_cons, List.append_assoc, List.singleton_append,
      List.splitOn_append_cons_self_of_not_mem hline, ih hrest, List.cons_append]

/-! ## 3. What a report prints -/

/-- A report that prints outcomes and saves nothing: the text of each on a line of its own, or one
indented array of them all. -/
structure Prints (json : Bool) (outcomes : List Outcome) (report : Report) : Prop where
  unsaved : report.saved = none
  lines : json = false →
    report.output.toList = outcomes.flatMap fun o => o.text.toList ++ ['\n']
  array : json = true →
    report.output.toList = (Json.array (outcomes.map Outcome.toJson)).pretty.toList ++ ['\n']

variable {json : Bool} {outcomes others : List Outcome} {report other : Report}

/-- The outcomes determine what is printed. -/
theorem Prints.eq (h : report.Prints json outcomes) (hother : other.Prints json outcomes) :
    report = other := by
  have houtput : report.output.toList = other.output.toList := by
    cases json with
    | false => rw [h.lines rfl, hother.lines rfl]
    | true => rw [h.array rfl, hother.array rfl]
  cases report
  cases other
  congr 1
  · exact String.toList_injective houtput
  · exact h.unsaved.trans hother.unsaved.symm

namespace Prints

/-- Printed lines are cut at their ends into the texts of the outcomes. -/
theorem splitOn (h : report.Prints false outcomes) :
    report.output.toList.splitOn '\n' = outcomes.map (·.text.toList) ++ [[]] := by
  have hlines : ∀ line ∈ outcomes.map (·.text.toList), '\n' ∉ line := by
    intro line hline
    obtain ⟨o, _, rfl⟩ := List.mem_map.mp hline
    exact o.newline_not_mem_text
  rw [h.lines rfl, ← splitOn_lines hlines, List.flatMap_map]

/-- A printed array is read back as the outcomes, and the line end behind it does not matter. -/
theorem read (h : report.Prints true outcomes) :
    (Json.parse? report.output).bind (Json.list? Outcome.ofJson?) = some outcomes := by
  have hplain : Json.Plain 5 (.array (outcomes.map Outcome.toJson)) := by
    apply Json.plain_array
    intro item hitem
    obtain ⟨o, _, rfl⟩ := List.mem_map.mp hitem
    cases o with
    | dice pool => exact pool.plain_toJson 0
    | total sum => exact Json.plain_ofInt 4 sum
  have houtput : report.output =
      String.ofList (Json.writePretty 0 (.array (outcomes.map Outcome.toJson)) ++ ['\n']) := by
    apply String.toList_injective
    rw [h.array rfl, Json.pretty, String.toList_ofList, String.toList_ofList]
  -- The line end is a blank behind the array.
  have hend : Json.Blanks ['\n'] := List.forall_mem_singleton.mpr rfl
  have hparse := Json.parse?_of_laidOut Json.blanks_nil hend
    (Json.laidOut_writePretty 0 _ hplain.writable)
  rw [List.nil_append, ← houtput] at hparse
  rw [hparse]
  exact Json.list?_array Outcome.ofJson?_toJson outcomes

end Prints

end Report

end DiceCup

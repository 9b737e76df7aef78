import DiceCup.Proofs.Text.Reading

/-!
# Clauses — parts of a line that can be missing

A clause begins with a blank, and the character behind that blank, its mark, says which clause it
is.  As a blank is no digit, a number in front of a clause ends there; and if no mark of a clause is
one of what may follow it, the text says whether the clause is there and where it ends.
-/

namespace DiceCup

namespace Text

variable {marks own : List Char} {mark : Char} {cs rest more : List Char}

/-! ## 1. Texts that begin with a clause -/

/-- A text that is empty or begins with a clause that has one of the marks. -/
inductive Marked (marks : List Char) : List Char → Prop
  | empty : Marked marks []
  | clause {mark : Char} (hmark : mark ∈ marks) (cs : List Char) : Marked marks (' ' :: mark :: cs)

theorem Marked.noDigitFirst (h : Marked marks cs) : NoDigitFirst cs := by
  cases h with
  | empty => exact noDigitFirst_nil
  | clause => exact noDigitFirst_cons (by decide)

theorem Marked.mono (h : Marked marks cs) (hsub : marks ⊆ own) : Marked own cs := by
  cases h with
  | empty => exact .empty
  | clause hmark cs => exact .clause (hsub hmark) cs

theorem Marked.ne_clause (h : Marked marks cs) (hmark : mark ∉ marks) (rest : List Char) :
    cs ≠ ' ' :: mark :: rest := by
  intro heq
  cases h with
  | empty => cases heq
  | clause hmem cs =>
    have hsame := (List.cons.inj (List.cons.inj heq).2).1
    rw [hsame] at hmem
    exact hmark hmem

/-! ## 2. Optional clauses -/

/-- A way to write an optional clause: not at all if it is missing, otherwise with one of the marks
and in such a way that its end is seen if no digit follows. -/
structure ClauseWriter {α : Type} (write : Option α → List Char) (marks : List Char) : Prop where
  write_none : write none = []
  write_some : ∀ a, ∃ mark ∈ marks, ∃ cs, write (some a) = ' ' :: mark :: cs
  some_append_inj : ∀ {a b rest more}, NoDigitFirst rest → NoDigitFirst more →
    write (some a) ++ rest = write (some b) ++ more → a = b ∧ rest = more

namespace ClauseWriter

variable {α : Type} {write : Option α → List Char} {x y : Option α}

/-- An optional clause in front of marked text leaves it marked, by one mark or another. -/
theorem marked_append (h : ClauseWriter write own) (hrest : Marked marks rest) (x : Option α) :
    Marked (own ++ marks) (write x ++ rest) := by
  cases x with
  | none =>
    rw [h.write_none]
    exact hrest.mono (List.subset_append_right own marks)
  | some a =>
    obtain ⟨mark, hmark, cs, hwrite⟩ := h.write_some a
    rw [hwrite]
    exact .clause (List.mem_append_left marks hmark) _

/-- What follows a missing clause is not mistaken for the clause. -/
theorem ne_some_append (h : ClauseWriter write own) (hapart : ∀ mark ∈ own, mark ∉ marks)
    (hrest : Marked marks rest) (a : α) (more : List Char) : rest ≠ write (some a) ++ more := by
  obtain ⟨mark, hmark, cs, hwrite⟩ := h.write_some a
  rw [hwrite]
  exact hrest.ne_clause (hapart mark hmark) (cs ++ more)

/-- What follows has other marks, so a missing clause is not mistaken for one that is there. -/
theorem append_inj (h : ClauseWriter write own) (hapart : ∀ mark ∈ own, mark ∉ marks)
    (hrest : Marked marks rest) (hmore : Marked marks more)
    (heq : write x ++ rest = write y ++ more) : x = y ∧ rest = more := by
  cases x with
  | none =>
    rw [h.write_none] at heq
    cases y with
    | none =>
      rw [h.write_none] at heq
      exact ⟨rfl, heq⟩
    | some b => exact absurd heq (h.ne_some_append hapart hrest b more)
  | some a =>
    cases y with
    | none =>
      rw [h.write_none] at heq
      exact absurd heq.symm (h.ne_some_append hapart hmore a rest)
    | some b =>
      obtain ⟨hsame, hbehind⟩ := h.some_append_inj hrest.noDigitFirst hmore.noDigitFirst heq
      exact ⟨congrArg some hsame, hbehind⟩

end ClauseWriter

end Text

end DiceCup

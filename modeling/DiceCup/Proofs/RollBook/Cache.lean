import DiceCup.Proofs.Formula.Refusal
import DiceCup.Session

/-!
# Roll books as caches — an answer does not depend on what was asked before

A book is coherent when each entry is what reading its identifier gives.  Every query keeps that and
all entries, so a coherent book answers as a new one does.
-/

namespace DiceCup

namespace RollBook

variable {book : RollBook}

/-! ## 1. Looking an identifier up -/

theorem mem_of_find? {identifier : String} {bound : BoundRoll}
    (h : book.find? identifier = some bound) :
    bound ∈ book.entries ∧ bound.identifier = identifier := by
  have hkey := List.find?_some h
  exact ⟨List.mem_of_find?_eq_some h, by simpa using hkey⟩

theorem find?_eq_none {identifier : String} :
    book.find? identifier = none ↔ ∀ bound ∈ book.entries, bound.identifier ≠ identifier := by
  simp [find?]

/-- All that looking an identifier up can do: find it, read it, or find that it cannot be read. -/
theorem resolve_cases (book : RollBook) (identifier : String) :
    (∃ bound, book.find? identifier = some bound ∧
      book.resolve identifier = (some bound, book)) ∨
    (book.find? identifier = none ∧ ∃ f, Formula.ofIdentifier? identifier = some f ∧
      book.resolve identifier =
        (some ⟨identifier, f⟩, ⟨⟨identifier, f⟩ :: book.entries, book.parseCount + 1⟩)) ∨
    (book.find? identifier = none ∧ Formula.ofIdentifier? identifier = none ∧
      book.resolve identifier = (none, ⟨book.entries, book.parseCount + 1⟩)) := by
  cases hfind : book.find? identifier with
  | some bound => exact .inl ⟨bound, rfl, by simp only [resolve, hfind]⟩
  | none =>
    cases hread : Formula.ofIdentifier? identifier with
    | some f => exact .inr (.inl ⟨rfl, f, rfl, by simp only [resolve, hfind, hread]⟩)
    | none => exact .inr (.inr ⟨rfl, rfl, by simp only [resolve, hfind, hread]⟩)

/-- No identifier has two entries, and each entry is what reading its identifier gives. -/
structure Coherent (book : RollBook) : Prop where
  read : ∀ bound ∈ book.entries, Formula.ofIdentifier? bound.identifier = some bound.formula
  nodup : (book.entries.map BoundRoll.identifier).Nodup

theorem Coherent.new : ({} : RollBook).Coherent :=
  ⟨fun _ h => (nomatch h), List.nodup_nil⟩

/-- Reading an identifier adds the entry that belongs to it, or none. -/
theorem Coherent.resolve (h : book.Coherent) (identifier : String) :
    (book.resolve identifier).2.Coherent := by
  rcases book.resolve_cases identifier with ⟨bound, _, heq⟩ | ⟨hfind, f, hread, heq⟩ | ⟨_, _, heq⟩
  · rw [heq]
    exact h
  · rw [heq]
    refine ⟨?_, ?_⟩
    · intro bound hbound
      cases hbound with
      | head => exact hread
      | tail _ hbound => exact h.read bound hbound
    · have hfresh : identifier ∉ book.entries.map BoundRoll.identifier := by
        intro hmem
        obtain ⟨bound, hbound, hkey⟩ := List.mem_map.mp hmem
        exact find?_eq_none.mp hfind bound hbound hkey
      exact List.nodup_cons.mpr ⟨hfresh, h.nodup⟩
  · rw [heq]
    exact ⟨h.read, h.nodup⟩

/-- A coherent book gives the formula that the identifier stands for, if there is one. -/
theorem Coherent.resolve_eq (h : book.Coherent) (identifier : String) :
    (book.resolve identifier).1 =
      (Formula.ofIdentifier? identifier).map fun f => ⟨identifier, f⟩ := by
  rcases book.resolve_cases identifier with
    ⟨bound, hfind, heq⟩ | ⟨_, f, hread, heq⟩ | ⟨_, hread, heq⟩
  · obtain ⟨hmem, hkey⟩ := mem_of_find? hfind
    have hread := h.read bound hmem
    rw [heq, ← hkey, hread]
    rfl
  · rw [heq, hread]
    rfl
  · rw [heq, hread]
    rfl

/-- Every entry of a book is found again behind it. -/
theorem find?_resolve {identifier key : String} {bound : BoundRoll}
    (h : book.find? key = some bound) : (book.resolve identifier).2.find? key = some bound := by
  rcases book.resolve_cases identifier with ⟨_, _, heq⟩ | ⟨hfind, f, _, heq⟩ | ⟨_, _, heq⟩
  · rw [heq]
    exact h
  · have hne : identifier ≠ key := by
      rintro rfl
      rw [hfind] at h
      cases h
    rw [heq]
    simp only [find?, List.find?_cons, hne, decide_false]
    exact h
  · rw [heq]
    exact h

/-! ## 2. Runs of queries -/

theorem call_eq (book : RollBook) (identifier : String) (options : RollOptions) :
    book.call identifier options =
      (match (book.resolve identifier).1 with
        | some bound => bound.call options
        | none => throw (.noSuchOperation identifier), (book.resolve identifier).2) := by
  unfold call
  rcases book.resolve identifier with ⟨_ | _, _⟩ <;> rfl

/-- A query leaves the book alone or looks an identifier up in it. -/
theorem ask_cases (book : RollBook) (query : Query) :
    book.ask query = book ∨ ∃ identifier, book.ask query = (book.resolve identifier).2 := by
  cases query with
  | resolve identifier => exact .inr ⟨identifier, rfl⟩
  | call identifier options => exact .inr ⟨identifier, by rw [ask, call_eq]⟩
  | respondsTo identifier => exact .inl rfl

theorem Coherent.ask (h : book.Coherent) (query : Query) : (book.ask query).Coherent := by
  rcases book.ask_cases query with heq | ⟨identifier, heq⟩
  · rw [heq]
    exact h
  · rw [heq]
    exact h.resolve identifier

/-- An entry that a book has is not changed by any query. -/
theorem find?_ask {key : String} {bound : BoundRoll} (h : book.find? key = some bound)
    (query : Query) : (book.ask query).find? key = some bound := by
  rcases book.ask_cases query with heq | ⟨identifier, heq⟩
  · rw [heq]
    exact h
  · rw [heq]
    exact find?_resolve h

theorem Coherent.after (h : book.Coherent) (queries : List Query) :
    (book.after queries).Coherent := by
  induction queries generalizing book with
  | nil => exact h
  | cons query queries ih => exact ih (h.ask query)

theorem find?_after {key : String} {bound : BoundRoll} (h : book.find? key = some bound)
    (queries : List Query) : (book.after queries).find? key = some bound := by
  induction queries generalizing book with
  | nil => exact h
  | cons query queries ih => exact ih (find?_ask h query)

/-! ## 3. Answers -/

/-- A call on a coherent book rolls the formula that the identifier stands for. -/
theorem Coherent.runOn_call (h : book.Coherent) (identifier : String) (options : RollOptions)
    (cup : Cup) :
    (book.call identifier options).1.runOn cup = match Formula.ofIdentifier? identifier with
      | some f => (f.invoke options).runOn cup
      | none => (.error (.noSuchOperation identifier), cup) := by
  rw [call_eq, h.resolve_eq]
  cases Formula.ofIdentifier? identifier <;> rfl

/-- A book responds to what can be read, read before or not. -/
theorem Coherent.respondsTo_eq (h : book.Coherent) (identifier : String) :
    book.respondsTo identifier = (Formula.ofIdentifier? identifier).isSome := by
  unfold respondsTo isResolved
  cases hfind : book.find? identifier with
  | none => rfl
  | some bound =>
    obtain ⟨hmem, hkey⟩ := mem_of_find? hfind
    rw [← hkey, h.read bound hmem]
    rfl

/-- **A roll book answers as if it remembered nothing.**  Whatever it was asked before, its entries
are what reading their identifiers gives, and none of them is ever lost or changed.  It resolves
just what can be read, and its calls do what they do on a new book, namely roll the formula that
was read.  An identifier that it responds to never fails as unknown; any other one does, and the
cup is left alone. -/
theorem cache_transparent (queries : List Query) :
    (after {} queries).Coherent ∧
    (∀ key bound, (after {} queries).find? key = some bound →
      bound.identifier = key ∧ Formula.ofIdentifier? key = some bound.formula ∧
      ∀ more, ((after {} queries).after more).find? key = some bound) ∧
    (∀ key bound, ((after {} queries).resolve key).1 = some bound ↔
      bound.identifier = key ∧ Formula.ofIdentifier? key = some bound.formula) ∧
    (∀ key options cup,
      ((after {} queries).call key options).1.runOn cup = (call {} key options).1.runOn cup ∧
      ((after {} queries).call key options).1.runOn cup =
        match Formula.ofIdentifier? key with
        | some f => (f.invoke options).runOn cup
        | none => (.error (.noSuchOperation key), cup)) ∧
    (∀ key, (after {} queries).respondsTo key = true → ∀ options cup unknown cup',
      ((after {} queries).call key options).1.runOn cup ≠
        (.error (.noSuchOperation unknown), cup')) ∧
    (∀ key, (after {} queries).respondsTo key = false → ∀ options cup,
      ((after {} queries).call key options).1.runOn cup = (.error (.noSuchOperation key), cup)) ∧
    ∀ key, (after {} queries).ask (.respondsTo key) = after {} queries := by
  have hcoherent := Coherent.new.after queries
  generalize after {} queries = book at hcoherent
  refine ⟨hcoherent, ?_, ?_, ?_, ?_, ?_, fun _ => rfl⟩
  · intro key bound hfind
    obtain ⟨hmem, hkey⟩ := mem_of_find? hfind
    have hread := hcoherent.read bound hmem
    rw [hkey] at hread
    exact ⟨hkey, hread, find?_after hfind⟩
  · intro key bound
    rw [hcoherent.resolve_eq, Option.map_eq_some_iff]
    constructor
    · rintro ⟨f, hread, rfl⟩
      exact ⟨rfl, hread⟩
    · rintro ⟨rfl, hread⟩
      exact ⟨bound.formula, hread, rfl⟩
  · intro key options cup
    have hcall := hcoherent.runOn_call key options cup
    exact ⟨hcall.trans (Coherent.new.runOn_call key options cup).symm, hcall⟩
  · intro key hresponds options cup unknown cup' hcall
    rw [hcoherent.respondsTo_eq] at hresponds
    obtain ⟨f, hread⟩ := Option.isSome_iff_exists.mp hresponds
    rw [hcoherent.runOn_call, hread] at hcall
    exact Formula.kind_of_invoke_eq_error hcall rfl
  · intro key hresponds options cup
    rw [hcoherent.respondsTo_eq, Option.isSome_eq_false_iff, Option.isNone_iff_eq_none] at hresponds
    rw [hcoherent.runOn_call, hresponds]

def d6Queries : List Query := [.call "roll_d6" {}, .resolve "roll_d"]

def d6 : BoundRoll := ⟨"roll_d6", ⟨.roll, 6, 1, none, none⟩⟩

theorem cache_transparent_d6 :
    d6 ∈ (after {} d6Queries).entries ∧
    ((after {} d6Queries).find? "roll_d6" = some d6 ∧
      ((after {} d6Queries).after [.resolve "total_d20"]).find? "roll_d6" = some d6) ∧
    ((after {} d6Queries).respondsTo "roll_d6" = true ∧ ∀ options cup unknown cup',
      ((after {} d6Queries).call "roll_d6" options).1.runOn cup ≠
        (.error (.noSuchOperation unknown), cup')) ∧
    (after {} d6Queries).respondsTo "roll_d" = false ∧ ∀ options cup,
      ((after {} d6Queries).call "roll_d" options).1.runOn cup =
        (.error (.noSuchOperation "roll_d"), cup) := by
  have htransparent := cache_transparent d6Queries
  have hfind : (after {} d6Queries).find? "roll_d6" = some d6 := by decide
  have hknown : (after {} d6Queries).respondsTo "roll_d6" = true := by decide
  have hunknown : (after {} d6Queries).respondsTo "roll_d" = false := by decide
  refine ⟨by decide, ⟨hfind, ?_⟩, ⟨hknown, ?_⟩, hunknown, ?_⟩
  · exact (htransparent.2.1 "roll_d6" d6 hfind).2.2 _
  · exact htransparent.2.2.2.2.1 "roll_d6" hknown
  · exact htransparent.2.2.2.2.2.1 "roll_d" hunknown

end RollBook

end DiceCup

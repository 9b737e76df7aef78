import DiceCup.Proofs.RollBook.Cache
import DiceCup.Session
import Mathlib.Data.Finset.Card

/-!
# Readings — how often a book reads an identifier

A book reads an identifier when a query raises its count.  One that it accepts becomes an entry, and
as entries stay it is read only once; one that it refuses is read whenever it is looked up.  So what
a new book counts, and how large it grows, is told by the identifiers that were looked up.
-/

namespace DiceCup

namespace RollBook

/-! ## 1. What is looked up and what is read -/

namespace Query

def identifier : Query → String
  | .resolve identifier | .call identifier _ | .respondsTo identifier => identifier

/-- Whether a query looks its identifier up; the other ones only ask if that would succeed. -/
def looksUp : Query → Bool
  | .resolve _ | .call _ _ => true
  | .respondsTo _ => false

end Query

def lookedUp (queries : List Query) : List String :=
  (queries.filter Query.looksUp).map Query.identifier

/-- The identifiers for which queries raise the count of a book, in order. -/
def readings (book : RollBook) : List Query → List String
  | [] => []
  | query :: queries =>
    let rest := (book.ask query).readings queries
    if book.parseCount < (book.ask query).parseCount then query.identifier :: rest else rest

def keys (book : RollBook) : List String := book.entries.map BoundRoll.identifier

def accepts (identifier : String) : Bool := (Formula.ofIdentifier? identifier).isSome

def refuses (identifier : String) : Bool := !accepts identifier

/-! ## 2. One query -/

/-- All that a query can do to a book. -/
inductive Course (book : RollBook) (query : Query) : Prop
  | asked (hlooks : query.looksUp = false) (hask : book.ask query = book)
  | known (hlooks : query.looksUp = true) (hkey : query.identifier ∈ book.keys)
      (haccepts : accepts query.identifier = true) (hask : book.ask query = book)
  | accepted (hlooks : query.looksUp = true) (haccepts : accepts query.identifier = true)
      (hcount : (book.ask query).parseCount = book.parseCount + 1)
      (hkeys : (book.ask query).keys = query.identifier :: book.keys)
  | refused (hlooks : query.looksUp = true) (haccepts : accepts query.identifier = false)
      (hcount : (book.ask query).parseCount = book.parseCount + 1)
      (hkeys : (book.ask query).keys = book.keys)

variable {book : RollBook} {query : Query} {queries : List Query}

theorem length_keys (book : RollBook) : book.keys.length = book.size := List.length_map _

theorem Coherent.course_of_looksUp (h : book.Coherent) (hlooks : query.looksUp = true)
    (hask : book.ask query = (book.resolve query.identifier).2) : Course book query := by
  rcases book.resolve_cases query.identifier with
    ⟨bound, hfind, heq⟩ | ⟨_, f, hread, heq⟩ | ⟨_, hread, heq⟩
  · obtain ⟨hmem, hkey⟩ := mem_of_find? hfind
    have hread := h.read bound hmem
    rw [hkey] at hread
    refine .known hlooks (List.mem_map.mpr ⟨bound, hmem, hkey⟩) ?_ (by rw [hask, heq])
    rw [accepts, hread, Option.isSome_some]
  · refine .accepted hlooks ?_ (by rw [hask, heq]) (by rw [hask, heq]; rfl)
    rw [accepts, hread, Option.isSome_some]
  · refine .refused hlooks ?_ (by rw [hask, heq]) (by rw [hask, heq]; rfl)
    rw [accepts, hread, Option.isSome_none]

/-- A query reads its identifier, or leaves the book as it is. -/
theorem Coherent.course (h : book.Coherent) (query : Query) : Course book query := by
  cases query with
  | resolve identifier => exact h.course_of_looksUp rfl rfl
  | call identifier options => exact h.course_of_looksUp rfl (by rw [RollBook.ask, call_eq]; rfl)
  | respondsTo identifier => exact .asked rfl rfl

theorem lookedUp_cons (query : Query) (queries : List Query) :
    lookedUp (query :: queries) =
      if query.looksUp then query.identifier :: lookedUp queries else lookedUp queries := by
  rw [lookedUp, List.filter_cons]
  split <;> rfl

theorem readings_of_same (hask : book.ask query = book) :
    book.readings (query :: queries) = book.readings queries := by
  rw [readings, hask, if_neg (Nat.lt_irrefl _)]

theorem readings_of_read (hcount : (book.ask query).parseCount = book.parseCount + 1) :
    book.readings (query :: queries) = query.identifier :: (book.ask query).readings queries := by
  rw [readings, if_pos (by omega)]

/-! ## 3. Runs of queries -/

/-- The count of a book grows by the identifiers that are read. -/
theorem parseCount_after (h : book.Coherent) (queries : List Query) :
    (book.after queries).parseCount = book.parseCount + (book.readings queries).length := by
  -- By induction on the queries, case by case in what the first one does to the book.
  induction queries generalizing book with
  | nil => rfl
  | cons query queries ih =>
    have hrest := ih (h.ask query)
    change (book.after (query :: queries)).parseCount = _ at hrest
    cases h.course query with
    | asked _ hask | known _ _ _ hask =>
      rw [hrest, readings_of_same hask, hask]
    | accepted _ _ hcount _ | refused _ _ hcount _ =>
      rw [hrest, readings_of_read hcount, hcount, List.length_cons]
      omega

/-- Of the identifiers that are read, the accepted ones become entries, the latest in front. -/
theorem keys_after (h : book.Coherent) (queries : List Query) :
    (book.after queries).keys = ((book.readings queries).filter accepts).reverse ++ book.keys := by
  induction queries generalizing book with
  | nil => rfl
  | cons query queries ih =>
    have hrest := ih (h.ask query)
    change (book.after (query :: queries)).keys = _ at hrest
    cases h.course query with
    | asked _ hask | known _ _ _ hask =>
      rw [hrest, readings_of_same hask, hask]
    | accepted _ haccepts hcount hkeys =>
      rw [hrest, readings_of_read hcount, hkeys, List.filter_cons_of_pos haccepts,
        List.reverse_cons, List.append_assoc]
      rfl
    | refused _ haccepts hcount hkeys =>
      rw [hrest, readings_of_read hcount, hkeys, List.filter_cons_of_neg (by simp [haccepts])]

/-- Nothing that is refused becomes an entry, so each time it is looked up it is read. -/
theorem filter_refuses_readings (h : book.Coherent) (queries : List Query) :
    (book.readings queries).filter refuses = (lookedUp queries).filter refuses := by
  -- Of the identifiers that are looked up, only accepted ones are ever left unread.
  induction queries generalizing book with
  | nil => rfl
  | cons query queries ih =>
    have hrest := ih (h.ask query)
    cases h.course query with
    | asked hlooks hask =>
      rw [readings_of_same hask, lookedUp_cons, hlooks]
      simpa [hask] using hrest
    | known hlooks _ haccepts hask =>
      rw [readings_of_same hask, lookedUp_cons, hlooks, if_pos rfl]
      simpa [hask, refuses, haccepts] using hrest
    | accepted hlooks haccepts hcount _ | refused hlooks haccepts hcount _ =>
      rw [readings_of_read hcount, lookedUp_cons, hlooks, if_pos rfl, List.filter_cons,
        List.filter_cons, hrest]

theorem mem_keys_after (h : book.Coherent) (queries : List Query) {key : String} :
    key ∈ (book.after queries).keys ↔
      key ∈ book.keys ∨ key ∈ lookedUp queries ∧ accepts key = true := by
  induction queries generalizing book with
  | nil => simp [after, lookedUp]
  | cons query queries ih =>
    have hrest := ih (h.ask query)
    change key ∈ (book.after (query :: queries)).keys ↔ _ at hrest
    rw [hrest, lookedUp_cons]
    cases h.course query with
    | asked hlooks hask => simp [hask, hlooks]
    | known hlooks hkey haccepts hask =>
      rw [hask, hlooks, if_pos rfl, List.mem_cons]
      -- An identifier that is known adds nothing: it is accepted and already among the keys.
      constructor
      · rintro (hmem | ⟨hmem, hkeyAccepts⟩)
        · exact .inl hmem
        · exact .inr ⟨.inr hmem, hkeyAccepts⟩
      · rintro (hmem | ⟨rfl | hmem, hkeyAccepts⟩)
        · exact .inl hmem
        · exact .inl hkey
        · exact .inr ⟨hmem, hkeyAccepts⟩
    | accepted hlooks haccepts _ hkeys => grind
    | refused hlooks haccepts _ hkeys => grind

theorem after_append (book : RollBook) (queries more : List Query) :
    book.after (queries ++ more) = (book.after queries).after more :=
  List.foldl_append

/-! ## 4. A new book -/

theorem nodup_filter_readings (queries : List Query) :
    ((readings {} queries).filter accepts).Nodup := by
  have hnodup := (Coherent.new.after queries).nodup
  change (after {} queries).keys.Nodup at hnodup
  rw [keys_after Coherent.new, List.nodup_append, List.nodup_reverse] at hnodup
  exact hnodup.1

theorem size_after (queries : List Query) :
    (after {} queries).size = ((readings {} queries).filter accepts).length := by
  rw [← length_keys, keys_after Coherent.new]
  simp [keys]

theorem mem_filter_readings (queries : List Query) {key : String} :
    key ∈ (readings {} queries).filter accepts ↔ key ∈ lookedUp queries ∧ accepts key = true := by
  have hkeys : key ∈ (after {} queries).keys ↔ _ := mem_keys_after Coherent.new queries
  rw [keys_after Coherent.new] at hkeys
  simpa [keys] using hkeys

/-- An accepted identifier is read at its first look-up, a refused one at each. -/
theorem count_readings (queries : List Query) (key : String) :
    (readings {} queries).count key =
      if accepts key then min 1 ((lookedUp queries).count key)
      else (lookedUp queries).count key := by
  split
  next haccepts =>
    -- Accepted readings have no duplicates, so it is enough to tell whether there is one.
    have hmem : key ∈ (readings {} queries).filter accepts ↔ 0 < (lookedUp queries).count key := by
      rw [mem_filter_readings, List.count_pos_iff, and_iff_left haccepts]
    rw [← List.count_filter haccepts, (nodup_filter_readings queries).count]
    simp only [hmem]
    split <;> omega
  next haccepts =>
    -- Refused readings are just the refused look-ups.
    have hrefuses : refuses key = true := by simp [refuses, haccepts]
    rw [← List.count_filter hrefuses, filter_refuses_readings Coherent.new,
      List.count_filter hrefuses]

/-- **An accepted identifier is read once.**  After any queries the size of a new book is the number
of distinct identifiers that were looked up and accepted, and its count is that number and one for
each time that another one was looked up.  Asking whether it would respond changes nothing.  An
identifier that is accepted is read at the first of its look-ups and no other, and one that is
refused at all of them; this is all that is counted.  A call in a session is a look-up like any
other, whatever comes of it. -/
theorem accepted_read_once (queries : List Query) :
    (after {} queries).size = ((lookedUp queries).filter accepts).toFinset.card ∧
    (after {} queries).parseCount =
      (after {} queries).size + ((lookedUp queries).filter refuses).length ∧
    (∀ identifier, (after {} queries).ask (.respondsTo identifier) = after {} queries) ∧
    (after {} queries).parseCount = (readings {} queries).length ∧
    (∀ identifier, (readings {} queries).count identifier =
      if accepts identifier then min 1 ((lookedUp queries).count identifier)
      else (lookedUp queries).count identifier) ∧
    ∀ identifier options cup, (Session.call ⟨after {} queries, cup⟩ identifier options).2.book =
      after {} (queries ++ [.call identifier options]) := by
  have hreadings := parseCount_after Coherent.new queries
  rw [show ({} : RollBook).parseCount = 0 from rfl, Nat.zero_add] at hreadings
  refine ⟨?size, ?count, fun _ => rfl, hreadings, count_readings queries, ?calls⟩
  case size =>
    rw [size_after, ← List.toFinset_card_of_nodup (nodup_filter_readings queries)]
    congr 1
    ext key
    rw [List.mem_toFinset, List.mem_toFinset, mem_filter_readings, List.mem_filter]
  case count =>
    rw [hreadings, size_after, ← filter_refuses_readings Coherent.new]
    exact List.length_eq_length_filter_add accepts
  case calls =>
    intro key options cup
    rw [after_append]
    rfl

end RollBook

end DiceCup

import DiceCup.Proofs.Formula.Grammar
import DiceCup.Proofs.RollBook.Cache

/-!
# Keeping every die — a keep clause that leaves nothing out

A selection of all dice is the pool as it was rolled, so a formula with such a clause rolls what it
rolls without, although its total is taken from a pool in the one case and from a running sum in the
other.  A single die is kept by every clause that gives no number.
-/

namespace DiceCup

namespace Pool

/-! ## 1. All dice of a pool -/

theorem allIncluded_eq_self {pool : Pool} (h : ∀ die ∈ pool.dice, die.included = true) :
    pool.allIncluded = pool := by
  have hdice : pool.dice.map (fun die => { die with included := true }) = pool.dice.map id :=
    List.map_congr_left fun die hdie => by rw [← h die hdie, id]
  rw [allIncluded, hdice, List.map_id]

/-- A selection that keeps as many dice as there are keeps them all. -/
theorem eq_of_length_kept {pool result : Pool} (hsame : result.allIncluded = pool.allIncluded)
    (hlength : result.kept.length = pool.dice.length) : result = pool.allIncluded := by
  have hdice : result.dice.length = pool.dice.length := by
    have hlengths := congrArg (fun p : Pool => p.dice.length) hsame
    simpa only [allIncluded, List.length_map] using hlengths
  have hall : ∀ die ∈ result.dice, die.included = true := by
    rw [← List.length_filter_eq_length_iff, hdice]
    exact hlength
  rw [← hsame, allIncluded_eq_self hall]

/-- To keep as many dice as there are lets all of them count, by either mode. -/
theorem keep_count {pool : Pool} (hlength : pool.dice.length < 0x100000000) (mode : KeepMode) :
    pool.keep mode (some pool.count) = .ok pool.allIncluded := by
  have hselects : pool.Selects mode pool.dice.length _ := selects_best (Nat.le_refl _) mode
  have hnumber : (pool.numberOf (some pool.count)).toNat = pool.dice.length := toNat_count hlength
  have hle : pool.numberOf (some pool.count) ≤ pool.count := UInt32.le_refl pool.count
  rw [keep_eq_ok hle, hnumber, eq_of_length_kept hselects.same hselects.length_kept]

theorem allIncluded_of_roll {sides count : UInt32} {options : RollOptions} {pool : Pool}
    {cup cup' : Cup} (h : (roll sides count options).runOn cup = (.ok pool, cup')) :
    pool.allIncluded = pool := by
  obtain ⟨_, _, values, _, rfl⟩ := roll_eq_ok h
  apply allIncluded_eq_self
  intro die hdie
  obtain ⟨value, _, rfl⟩ := List.mem_map.mp hdie
  rfl

end Pool

namespace Formula

/-! ## 2. All dice of a formula -/

/-- A clause that keeps all dice of a formula may as well be left out. -/
theorem roll_keep_all {f : Formula} {mode : KeepMode} (h : f.keep = some ⟨mode, f.count⟩)
    (options : RollOptions) : f.roll options = ({ f with keep := none }).roll options := by
  unfold roll
  rw [h]
  -- The clause is not looked at before there are dice, and then there are as many as it keeps.
  apply bind_congr
  intro merged
  apply RollM.bind_congr_of_ok
  intro cup pool cup' hroll
  have hsound := Pool.sound_of_roll hroll
  have hlength : pool.dice.length < 0x100000000 := by
    rw [hsound.length_dice]
    exact f.count.toNat_lt
  show RollM.lift (pool.keep mode (some f.count)) = pure pool
  rw [← hsound.count_eq, Pool.keep_count hlength, Pool.allIncluded_of_roll hroll]
  rfl

theorem invoke_keep_all {f : Formula} {mode : KeepMode} (h : f.keep = some ⟨mode, f.count⟩)
    (options : RollOptions) : f.invoke options = ({ f with keep := none }).invoke options := by
  rw [invoke_eq, invoke_eq, roll_keep_all h]

/-! ## 3. A single die -/

def totalOfOne (sides : Numeral) (clause : String) : String :=
  "total_1d" ++ String.ofList sides.digits ++ clause

def wordClauses : List (Option (String × KeepMode)) :=
  none :: keepWords.map some

theorem none_mem_wordClauses : none ∈ wordClauses := List.mem_cons_self

theorem some_mem_wordClauses {k : String × KeepMode} (h : k ∈ keepWords) :
    some k ∈ wordClauses :=
  List.mem_cons_of_mem _ (List.mem_map_of_mem h)

def clauseText : Option (String × KeepMode) → String
  | none => ""
  | some (word, _) => "_" ++ word

@[simp] theorem clauseText_none : clauseText none = "" := rfl

@[simp] theorem clauseText_some (word : String) (mode : KeepMode) :
    clauseText (some (word, mode)) = "_" ++ word := rfl

def spellOne (sides : Numeral) (keep : Option (String × KeepMode)) : Spelling where
  action := .total
  count := some (.ofNat 1)
  sides := sides
  keep := keep.map fun (word, mode) => (word, mode, none)
  modifier := none

variable {sides : Numeral} {keep : Option (String × KeepMode)}

theorem text_spellOne :
    (spellOne sides keep).text = (totalOfOne sides (clauseText keep)).toList := by
  have hcount : (Numeral.ofNat 1).digits = ['1'] := rfl
  rw [Spelling.text_eq, totalOfOne, String.toList_append, String.toList_append,
    String.toList_ofList]
  simp only [spellOne, Spelling.numeralText, Spelling.modifierText, hcount]
  rcases keep with _ | ⟨word, mode⟩
  · simp [clauseText, Spelling.keepText, actionWord]
  · simp [clauseText, Spelling.keepText, actionWord, Spelling.numeralText]

theorem worded_spellOne (hkeep : keep ∈ wordClauses) : (spellOne sides keep).Worded := by
  refine ⟨?_, nofun⟩
  intro k hk
  obtain ⟨word, rfl, rfl⟩ := Option.map_eq_some_iff.mp hk
  rw [wordClauses, List.mem_cons, List.mem_map] at hkeep
  rcases hkeep with hnone | ⟨_, hword, ⟨⟩⟩
  · cases hnone
  · exact hword

theorem withinLimits_spellOne :
    (spellOne sides keep).WithinLimits ↔ sides.value ≤ mostCount := by
  constructor
  · intro h
    exact h.2.1
  · intro h
    refine ⟨?_, h, ?_, nofun⟩
    · rintro n ⟨⟩
      decide
    · intro k hk n hn
      obtain ⟨word, _, rfl⟩ := Option.map_eq_some_iff.mp hk
      cases hn

theorem ofIdentifier?_totalOfOne (hkeep : keep ∈ wordClauses)
    (hsides : sides.value ≤ mostCount) :
    ofIdentifier? (totalOfOne sides (clauseText keep)) = some (spellOne sides keep).meaning := by
  have hadmissible := (Spelling.admissible_iff _).mpr
    ⟨worded_spellOne hkeep, withinLimits_spellOne.mpr hsides⟩
  exact ofIdentifier?_of_text hadmissible text_spellOne

/-- Too many sides are too many with any clause behind them. -/
theorem ofIdentifier?_totalOfOne_eq_none (hkeep : keep ∈ wordClauses)
    (hsides : mostCount < sides.value) :
    ofIdentifier? (totalOfOne sides (clauseText keep)) = none := by
  rw [Option.eq_none_iff_forall_ne_some]
  intro f hread
  obtain ⟨s, hs, htext, -⟩ := ofIdentifier?_eq_some hread
  obtain ⟨hworded, hwithin⟩ := (Spelling.admissible_iff s).mp hs
  -- A text has only one spelling by words, so the one that was read is this one.
  have hsame : s = spellOne sides keep :=
    Spelling.text_injective hworded (worded_spellOne hkeep) (htext.trans text_spellOne.symm)
  rw [hsame, withinLimits_spellOne] at hwithin
  omega

/-- The number that a clause leaves out is one, and so is that of the dice. -/
theorem invoke_spellOne (word : String) (mode : KeepMode) (options : RollOptions) :
    (spellOne sides (some (word, mode))).meaning.invoke options =
      (spellOne sides none).meaning.invoke options :=
  invoke_keep_all (f := (spellOne sides (some (word, mode))).meaning) rfl options

theorem call_totalOfOne {book : RollBook} (hbook : book.Coherent) {word : String} {mode : KeepMode}
    (hword : (word, mode) ∈ keepWords) (hsides : sides.value ≤ mostCount) (options : RollOptions)
    (cup : Cup) : (book.call (totalOfOne sides ("_" ++ word)) options).1.runOn cup =
      (book.call (totalOfOne sides "") options).1.runOn cup := by
  have hclause := ofIdentifier?_totalOfOne (some_mem_wordClauses hword) hsides
  have hplain := ofIdentifier?_totalOfOne none_mem_wordClauses hsides
  rw [clauseText_some] at hclause
  rw [clauseText_none] at hplain
  rw [hbook.runOn_call, hbook.runOn_call, hclause, hplain]
  exact congrArg (RollM.runOn · cup) (invoke_spellOne word mode options)

/-- **To keep all dice is to have no keep clause.**  A formula that keeps as many dice as it rolls
has the outcome of the formula without the clause, or fails as that does, and leaves the same cup;
for a total this is the running sum of the values.  In particular the total of a single die is the
same whatever clause without a number stands behind its sides, if these can be read at all. -/
theorem keep_all_dispensable (options : RollOptions) (cup : Cup) :
    (∀ (f : Formula) (mode : KeepMode), f.keep = some ⟨mode, f.count⟩ →
      (f.invoke options).runOn cup = (({ f with keep := none }).invoke options).runOn cup) ∧
    ∀ (sides : Numeral) (queries : List RollBook.Query) (word : String) (mode : KeepMode),
      (word, mode) ∈ keepWords →
      let answer identifier := ((RollBook.after {} queries).call identifier options).1.runOn cup
      (sides.value ≤ mostCount →
        answer (totalOfOne sides ("_" ++ word)) = answer (totalOfOne sides "")) ∧
      (mostCount < sides.value → ofIdentifier? (totalOfOne sides ("_" ++ word)) = none ∧
        ofIdentifier? (totalOfOne sides "") = none) := by
  refine ⟨fun f mode h => by rw [invoke_keep_all h], ?single⟩
  case single =>
    intro sides queries word mode hword answer
    constructor
    · intro hsides
      exact call_totalOfOne (RollBook.Coherent.new.after queries) hword hsides options cup
    · intro hsides
      have hclause := ofIdentifier?_totalOfOne_eq_none (some_mem_wordClauses hword) hsides
      have hplain := ofIdentifier?_totalOfOne_eq_none none_mem_wordClauses hsides
      rw [clauseText_some] at hclause
      rw [clauseText_none] at hplain
      exact ⟨hclause, hplain⟩

def allOfThree : Formula := ⟨.total, 20, 3, some ⟨.lowest, 3⟩, some 2⟩

theorem keep_all_dispensable_d20 :
    allOfThree.keep = some ⟨.lowest, allOfThree.count⟩ ∧
    (allOfThree.invoke {}).runOn Pool.plainCup =
      (({ allOfThree with keep := none }).invoke {}).runOn Pool.plainCup ∧
    totalOfOne (.ofNat 20) "_lowest" = "total_1d20_lowest" ∧
    totalOfOne (.ofNat 20) "" = "total_1d20" ∧
    ((RollBook.call {} (totalOfOne (.ofNat 20) "_lowest") {}).1.runOn Pool.plainCup =
      (RollBook.call {} (totalOfOne (.ofNat 20) "") {}).1.runOn Pool.plainCup ∧
    (RollBook.call {} (totalOfOne (.ofNat 20) "_highest") {}).1.runOn Pool.plainCup =
      (RollBook.call {} (totalOfOne (.ofNat 20) "") {}).1.runOn Pool.plainCup) ∧
    ofIdentifier? (totalOfOne (.ofNat 4294967296) "_highest") = none := by
  obtain ⟨hformula, hsingle⟩ := keep_all_dispensable {} Pool.plainCup
  have hlowest := hsingle (.ofNat 20) [] "lowest" .lowest (by decide)
  have hhighest := hsingle (.ofNat 20) [] "highest" .highest (by decide)
  have hlarge := hsingle (.ofNat 4294967296) [] "highest" .highest (by decide)
  exact ⟨rfl, hformula allOfThree .lowest rfl, by decide, by decide,
    ⟨hlowest.1 (by decide), hhighest.1 (by decide)⟩, (hlarge.2 (by decide)).1⟩

end Formula

end DiceCup

import DiceCup.Formula.Roll
import DiceCup.Proofs.Formula.Description
import DiceCup.Proofs.Json.Writing
import DiceCup.Proofs.Pool.Totals

/-!
# Texts of outcomes — unambiguous and truthful

A piece of such a text ends where something follows that cannot belong to it: no digit follows a
number, and a comma or a bracket follows a die.  So two equal texts begin with equal pieces, which
can be taken off one after the other.  The total at the end tells nothing new; it is the sum of
what stands in front of it.
-/

namespace DiceCup

open Text

variable {rest more : List Char}

namespace Die

/-! ## 1. Dice -/

def face (die : Die) : UInt32 × Bool := (die.value, die.included)

variable {die other : Die} {dice others : List Die}

theorem text_of_included (h : die.included = true) : die.text = toDigits die.value.toNat :=
  if_pos h

theorem text_of_not_included (h : die.included = false) :
    die.text = '(' :: toDigits die.value.toNat ++ [')'] := by
  unfold text
  rw [h]
  rfl

theorem text_append_ne {c : Char} (hc : c.isDigit = false) (hparen : c ≠ '(') :
    die.text ++ rest ≠ c :: more := by
  cases hincluded : die.included with
  | true =>
    rw [text_of_included hincluded]
    exact toDigits_append_ne hc rest more
  | false =>
    rw [text_of_not_included hincluded]
    exact fun h => hparen (List.cons.inj h).1.symm

theorem text_append_inj (hrest : NoDigitFirst rest) (hmore : NoDigitFirst more)
    (h : die.text ++ rest = other.text ++ more) : die.face = other.face ∧ rest = more := by
  rw [face, face]
  -- A die that counts begins with a digit and another one with a parenthesis, so both mark alike.
  cases hdie : die.included with
  | true =>
    rw [text_of_included hdie] at h
    cases hother : other.included with
    | true =>
      rw [text_of_included hother] at h
      obtain ⟨hdigits, hbehind⟩ := toDigits_append_inj hrest hmore h
      exact ⟨by rw [UInt32.toNat.inj hdigits], hbehind⟩
    | false =>
      rw [text_of_not_included hother] at h
      exact absurd h (toDigits_append_ne (by decide) _ _)
  | false =>
    rw [text_of_not_included hdie] at h
    cases hother : other.included with
    | true =>
      rw [text_of_included hother] at h
      exact absurd h.symm (toDigits_append_ne (by decide) _ _)
    | false =>
      rw [text_of_not_included hother, List.append_assoc, List.append_assoc] at h
      have hparen (cs : List Char) : NoDigitFirst ([')'] ++ cs) := noDigitFirst_cons (by decide)
      obtain ⟨hdigits, hbehind⟩ :=
        toDigits_append_inj (hparen rest) (hparen more) (List.cons.inj h).2
      exact ⟨by rw [UInt32.toNat.inj hdigits], (List.cons.inj hbehind).2⟩

def textsBehind (dice : List Die) : List Char := dice.flatMap fun die => ", ".toList ++ die.text

theorem textsBehind_cons : textsBehind (die :: dice) ++ rest =
    ',' :: ' ' :: (die.text ++ (textsBehind dice ++ rest)) := by
  rw [textsBehind, List.flatMap_cons]
  simp only [List.append_assoc]
  rfl

theorem separated_texts : Json.separated ", ".toList ((die :: dice).map text) =
    die.text ++ textsBehind dice := by
  induction dice generalizing die with
  | nil => rfl
  | cons next dice ih =>
    have hnext : Json.separated ", ".toList ((next :: dice).map text) =
      next.text ++ textsBehind dice := ih
    rw [List.map_cons, List.map_cons, Json.separated_cons_cons, ← List.map_cons, hnext,
      textsBehind, textsBehind, List.flatMap_cons, List.append_assoc]

theorem noDigitFirst_textsBehind : NoDigitFirst (textsBehind dice ++ ']' :: rest) := by
  cases dice with
  | nil => exact noDigitFirst_cons (by decide)
  | cons die dice =>
    rw [textsBehind_cons]
    exact noDigitFirst_cons (by decide)

theorem textsBehind_append_inj
    (h : textsBehind dice ++ ']' :: rest = textsBehind others ++ ']' :: more) :
    dice.map face = others.map face ∧ rest = more := by
  -- Behind each die stands a comma or the bracket, and the comma tells that there is another one.
  induction dice generalizing others with
  | nil =>
    cases others with
    | nil => exact ⟨rfl, (List.cons.inj h).2⟩
    | cons other others =>
      rw [textsBehind_cons] at h
      exact absurd (List.cons.inj h).1 (by decide)
  | cons die dice ih =>
    rw [textsBehind_cons] at h
    cases others with
    | nil => exact absurd (List.cons.inj h).1 (by decide)
    | cons other others =>
      rw [textsBehind_cons] at h
      have htexts := (List.cons.inj (List.cons.inj h).2).2
      obtain ⟨hface, hbehind⟩ :=
        text_append_inj noDigitFirst_textsBehind noDigitFirst_textsBehind htexts
      obtain ⟨hfaces, hrest⟩ := ih hbehind
      exact ⟨by rw [List.map_cons, List.map_cons, hface, hfaces], hrest⟩

theorem separated_append_inj (h : Json.separated ", ".toList (dice.map text) ++ ']' :: rest =
      Json.separated ", ".toList (others.map text) ++ ']' :: more) :
    dice.map face = others.map face ∧ rest = more := by
  cases dice with
  | nil =>
    cases others with
    | nil => exact ⟨rfl, (List.cons.inj h).2⟩
    | cons other others =>
      rw [separated_texts, List.append_assoc] at h
      exact absurd h.symm (text_append_ne (by decide) (by decide))
  | cons die dice =>
    rw [separated_texts, List.append_assoc] at h
    cases others with
    | nil => exact absurd h (text_append_ne (by decide) (by decide))
    | cons other others =>
      rw [separated_texts, List.append_assoc] at h
      obtain ⟨hface, hbehind⟩ :=
        text_append_inj noDigitFirst_textsBehind noDigitFirst_textsBehind h
      obtain ⟨hfaces, hrest⟩ := textsBehind_append_inj hbehind
      exact ⟨by rw [List.map_cons, List.map_cons, hface, hfaces], hrest⟩

end Die

namespace Pool

/-! ## 2. Pools -/

/-- A bonus is written like a modifier, except that zero is left out. -/
theorem bonusText_eq (bonus : Int32) :
    bonusText bonus = Formula.describeModifier (if bonus = 0 then none else some bonus) := by
  unfold bonusText
  by_cases hzero : bonus = 0
  · rw [if_pos hzero, if_pos hzero]
    rfl
  · have hne : bonus.toInt ≠ 0 := fun h => hzero (Int32.toInt_inj.mp h)
    have hsign : 0 < bonus ↔ 0 ≤ bonus := by
      rw [Int32.lt_iff_toInt_lt, Int32.le_iff_toInt_le, Int32.toInt_zero]
      omega
    rw [if_neg hzero, if_neg hzero]
    simp only [Formula.describeModifier, hsign]

theorem bonusText_append_inj {x y : Int32}
    (h : bonusText x ++ (' ' :: '=' :: rest) = bonusText y ++ (' ' :: '=' :: more)) :
    x = y ∧ rest = more := by
  have hequals (cs : List Char) : Marked ['='] (' ' :: '=' :: cs) :=
    .clause (List.mem_singleton_self '=') cs
  rw [bonusText_eq, bonusText_eq] at h
  obtain ⟨hsame, hbehind⟩ := Formula.clauseWriter_describeModifier.append_inj (by simp)
    (hequals rest) (hequals more) h
  refine ⟨?_, (List.cons.inj (List.cons.inj hbehind).2).2⟩
  -- Zero is written like no bonus, and no other bonus is.
  by_cases hx : x = 0 <;> by_cases hy : y = 0
  · rw [hx, hy]
  · rw [if_pos hx, if_neg hy] at hsame
    cases hsame
  · rw [if_neg hx, if_pos hy] at hsame
    cases hsame
  · rw [if_neg hx, if_neg hy] at hsame
    exact Option.some.inj hsame

theorem toList_text (pool : Pool) : pool.text.toList =
    toDigits pool.count.toNat ++ 'd' :: (toDigits pool.sides.toNat ++ ':' :: ' ' :: '[' ::
      (Json.separated ", ".toList (pool.dice.map Die.text) ++ ']' ::
        (bonusText pool.bonus ++ (' ' :: '=' :: ' ' :: intDigits pool.total.toInt)))) := by
  rw [text, String.toList_ofList]
  simp only [List.append_assoc, List.cons_append]
  rfl

variable {pool other : Pool}

/-- What a text of a pool tells can be taken off it, piece after piece. -/
theorem text_inj (h : pool.text = other.text) : pool.sides = other.sides ∧
    pool.dice.map Die.face = other.dice.map Die.face ∧ pool.bonus = other.bonus := by
  have hd (cs : List Char) : NoDigitFirst ('d' :: cs) := noDigitFirst_cons (by decide)
  have hcolon (cs : List Char) : NoDigitFirst (':' :: cs) := noDigitFirst_cons (by decide)
  replace h := congrArg String.toList h
  rw [toList_text, toList_text] at h
  obtain ⟨-, hsides⟩ := toDigits_append_inj (hd _) (hd _) h
  obtain ⟨hsides, hdice⟩ := toDigits_append_inj (hcolon _) (hcolon _) (List.cons.inj hsides).2
  simp only [List.cons.injEq, true_and] at hdice
  obtain ⟨hfaces, hbonus⟩ := Die.separated_append_inj hdice
  exact ⟨UInt32.toNat.inj hsides, hfaces, (bonusText_append_inj hbonus).1⟩

theorem map_value_kept (pool : Pool) :
    pool.kept.map Die.value = ((pool.dice.map Die.face).filter Prod.snd).map Prod.fst := by
  rw [List.filter_map, List.map_map]
  rfl

theorem text_congr (hsides : pool.sides = other.sides)
    (hdice : pool.dice.map Die.face = other.dice.map Die.face) (hbonus : pool.bonus = other.bonus) :
    pool.text = other.text := by
  have hcount : pool.count = other.count := by
    have hlength := congrArg List.length hdice
    rw [List.length_map, List.length_map] at hlength
    rw [count, count, hlength]
  have htexts : pool.dice.map Die.text = other.dice.map Die.text := by
    -- The text of a die with other properties and the same face.
    let textOf (face : UInt32 × Bool) : List Char := Die.text ⟨0, face.1, face.2, none, {}⟩
    have hmap (dice : List Die) : dice.map Die.text = (dice.map Die.face).map textOf := by
      rw [List.map_map]
      rfl
    rw [hmap, hmap, hdice]
  have htotal : pool.total = other.total := by
    rw [total_eq, total_eq, map_value_kept, map_value_kept, hdice, hbonus]
  apply String.toList_injective
  rw [toList_text, toList_text, hcount, hsides, htexts, hbonus, htotal]

/-! ## 3. Totals -/

/-- The sum of the numerals among pieces of text, without those in parentheses. -/
def sumOfBare : List (List Char) → Nat
  | [] => 0
  | piece :: pieces => (if '(' ∈ piece then 0 else digitsValue piece) + sumOfBare pieces

/-- The values without parentheses are those of the dice that count. -/
theorem sumOfBare_texts (dice : List Die) :
    sumOfBare (dice.map Die.text) = exactSum ((dice.filter Die.included).map Die.value) := by
  induction dice with
  | nil => rfl
  | cons die dice ih =>
    rw [List.map_cons, sumOfBare, ih]
    -- A numeral has no parenthesis, and a die that does not count has two of them.
    cases hincluded : die.included with
    | true =>
      have hbare : '(' ∉ toDigits die.value.toNat := fun hmem =>
        absurd (isDigit_of_mem_toDigits hmem) (by decide)
      rw [List.filter_cons_of_pos hincluded, List.map_cons, exactSum_cons,
        Die.text_of_included hincluded, if_neg hbare, digitsValue_toDigits]
    | false =>
      rw [List.filter_cons_of_neg (by rw [hincluded]; decide), Die.text_of_not_included hincluded,
        if_pos (List.mem_append_left _ List.mem_cons_self), Nat.zero_add]

theorem toInt_total (hsum : exactSum (pool.kept.map Die.value) ≤ RollError.mostTotal)
    (htotal : exactSum (pool.kept.map Die.value) + pool.bonus.toInt ≤ RollError.mostTotal) :
    pool.total.toInt = pool.bonus.toInt + sumOfBare (pool.dice.map Die.text) := by
  rw [total_eq, toInt_runningSum_add (by omega), sumOfBare_texts, Int.add_comm]
  rfl

end Pool

namespace Outcome

/-- Outcomes that agree in what a text tells: the value of a total, or of a pool the sides, the
faces of the dice in order and the bonus. -/
inductive LooksLike : Outcome → Outcome → Prop
  | total (sum : Int32) : LooksLike (.total sum) (.total sum)
  | dice {pool other : Pool} (hsides : pool.sides = other.sides)
      (hdice : pool.dice.map Die.face = other.dice.map Die.face)
      (hbonus : pool.bonus = other.bonus) : LooksLike (.dice pool) (.dice other)

/-- The text of a pool goes on behind its first number. -/
theorem text_dice_ne_text_total (pool : Pool) (sum : Int32) :
    (dice pool).text ≠ (total sum).text := by
  intro h
  have hchars : pool.text.toList = intDigits sum.toInt :=
    (congrArg String.toList h).trans String.toList_ofList
  have hcount : toDigits pool.count.toNat = intDigits pool.count.toNat := rfl
  have hd (cs : List Char) : NoDigitFirst ('d' :: cs) := noDigitFirst_cons (by decide)
  rw [Pool.toList_text, hcount, ← List.append_nil (intDigits sum.toInt)] at hchars
  cases (intDigits_append_inj (hd _) noDigitFirst_nil hchars).2

/-- Outcomes have the same text just if they look alike. -/
theorem text_eq_iff {outcome other : Outcome} :
    outcome.text = other.text ↔ outcome.LooksLike other := by
  constructor
  · intro h
    -- Two texts of one kind are taken apart; those of different kinds are never the same.
    cases outcome with
    | dice pool =>
      cases other with
      | dice other =>
        obtain ⟨hsides, hdice, hbonus⟩ := Pool.text_inj h
        exact .dice hsides hdice hbonus
      | total sum => exact absurd h (text_dice_ne_text_total pool sum)
    | total sum =>
      cases other with
      | dice other => exact absurd h.symm (text_dice_ne_text_total other sum)
      | total sum' =>
        have hdigits : intDigits sum.toInt ++ [] = intDigits sum'.toInt ++ [] :=
          congrArg (· ++ []) (String.ofList_injective h)
        have hvalue := (intDigits_append_inj noDigitFirst_nil noDigitFirst_nil hdigits).1
        rw [Int32.toInt_inj.mp hvalue]
        exact .total _
  · intro h
    cases h with
    | total sum => rfl
    | dice hsides hdice hbonus => exact Pool.text_congr hsides hdice hbonus

/-- **Texts of outcomes are unambiguous and truthful.**  Two outcomes have the same text just if
they are totals of the same value, or pools with the same sides, the same values and marks of the
dice in order and the same bonus; so the text of a pool is never that of a total.  If the values
that count leave room for the bonus, then behind the last equals sign stands the bonus added to the
sum of the values without parentheses. -/
theorem text_unambiguous_and_truthful :
    (∀ outcome other : Outcome, outcome.text = other.text ↔ outcome.LooksLike other) ∧
    (∀ (pool : Pool) (sum : Int32), (dice pool).text ≠ (total sum).text) ∧
    ∀ pool : Pool, Pool.exactSum (pool.kept.map Die.value) ≤ RollError.mostTotal →
      Pool.exactSum (pool.kept.map Die.value) + pool.bonus.toInt ≤ RollError.mostTotal →
      ∃ front behind : List Char, ∃ number : Int,
        (dice pool).text.toList = front ++ '[' ::
          Json.separated ", ".toList (pool.dice.map Die.text) ++ ']' :: behind ++ "= ".toList ++
          intDigits number ∧
        '=' ∉ intDigits number ∧
        number = pool.bonus.toInt + Pool.sumOfBare (pool.dice.map Die.text) := by
  refine ⟨fun _ _ => text_eq_iff, text_dice_ne_text_total, fun pool hsum htotal => ?_⟩
  refine ⟨toDigits pool.count.toNat ++ 'd' :: toDigits pool.sides.toNat ++ ": ".toList,
    Pool.bonusText pool.bonus ++ [' '], pool.total.toInt, ?text, ?last,
    Pool.toInt_total hsum htotal⟩
  case text =>
    show pool.text.toList = _
    rw [Pool.toList_text]
    simp only [List.append_assoc, List.cons_append]
    rfl
  case last =>
    intro hmem
    rcases mem_intDigits hmem with h | h <;> exact absurd h (by decide)

def chilledPool : Pool where
  sides := 8
  dice := [⟨8, 3, true, none, {}⟩, ⟨8, 7, false, none, {}⟩, ⟨8, 5, true, some .secure, {}⟩]
  bonus := -2
  technique := none
  appearance := { damageType := some "cold" }

theorem text_unambiguous_and_truthful_chilled : ∃ front behind : List Char,
    (dice chilledPool).text.toList =
      front ++ '[' :: "3, (7), 5".toList ++ ']' :: behind ++ "= 6".toList := by
  obtain ⟨-, -, htruth⟩ := text_unambiguous_and_truthful
  obtain ⟨front, behind, number, htext, -, hnumber⟩ := htruth chilledPool (by decide) (by decide)
  have hsix : number = 6 := by
    rw [hnumber]
    rfl
  rw [htext, hsix]
  refine ⟨front, behind, ?_⟩
  simp only [List.append_assoc]
  rfl

example : chilledPool.text = "3d8: [3, (7), 5] -2 = 6" := by decide

end Outcome

end DiceCup

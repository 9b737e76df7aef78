import DiceCup.Json.Reader
import DiceCup.Json.Writer
import DiceCup.Proofs.Text.Reading

/-!
# Scalars — numerals and strings are read as they were written

A numeral ends where nothing follows that could continue it; a string ends at its quote, as every
quote inside is escaped.  Each reader finds the front that the writer made for it.
-/

namespace DiceCup.Json

open DiceCup.Text

/-! ## 1. Numerals -/

/-- The text does not go on with what could continue a numeral. -/
def Ends (rest : List Char) : Prop :=
  ∀ c ∈ rest.head?, c.isDigit = false ∧ c ≠ '.' ∧ c ≠ 'e' ∧ c ≠ 'E'

theorem Ends.noDigitFirst {rest : List Char} (h : Ends rest) : NoDigitFirst rest :=
  fun c hc => (h c hc).1

theorem readDigits_append {ds rest : List Char} (hne : ds ≠ []) (hds : ∀ d ∈ ds, d.isDigit = true)
    (hrest : NoDigitFirst rest) : readDigits (ds ++ rest) = some (ds, rest) := by
  unfold readDigits
  dsimp only
  rw [takeWhile_digits hds hrest, dropWhile_digits hds hrest, if_neg hne]

/-- The first digit of a number is that of its tenth, if there are two or more. -/
theorem eq_zero_of_toDigits_zero {n : Nat} {ds : List Char} (h : toDigits n = '0' :: ds) :
    n = 0 := by
  induction n using Nat.strongRecOn generalizing ds with
  | ind n ih =>
    by_cases hsmall : n < 10
    · have hone : toDigits n = [n.digitChar] := Nat.toDigits_of_lt_base hsmall
      rw [hone] at h
      exact Nat.digitChar_eq_zero.mp (List.cons.inj h).1
    · have hlarge : 10 ≤ n := by omega
      have hsplit : toDigits n = toDigits (n / 10) ++ [(n % 10).digitChar] :=
        Nat.toDigits_of_base_le (by decide) hlarge
      have htenth : 0 < n / 10 := by omega
      cases hfront : toDigits (n / 10) with
      | nil => exact absurd hfront (toDigits_ne_nil _)
      | cons d front =>
        rw [hsplit, hfront] at h
        have hzero : d = '0' := (List.cons.inj h).1
        rw [hzero] at hfront
        have htenthZero := ih (n / 10) (by omega) hfront
        omega

theorem readWhole_toDigits (n : Nat) {rest : List Char} (hrest : NoDigitFirst rest) :
    readWhole (toDigits n ++ rest) = some (n, rest) := by
  have hread : readDigits (toDigits n ++ rest) = some (toDigits n, rest) :=
    readDigits_append (toDigits_ne_nil n) (fun _ => isDigit_of_mem_toDigits) hrest
  unfold readWhole
  rw [hread]
  split
  · next d ds more heq =>
    -- Only zero begins with a zero, and zero has one digit.
    have hdigits : toDigits n = '0' :: d :: ds := (Prod.mk.inj (Option.some.inj heq)).1
    rw [eq_zero_of_toDigits_zero hdigits] at hdigits
    cases hdigits
  · next digits more _ heq =>
    obtain ⟨rfl, rfl⟩ := Prod.mk.inj (Option.some.inj heq)
    rw [digitsValue_toDigits]
  · next heq => cases heq

def writeFraction (fraction : List Char) : List Char :=
  if fraction = [] then [] else '.' :: fraction

def writeExponent : Option Int → List Char
  | none => []
  | some e => 'e' :: intDigits e

theorem writeNumeral_eq (n : Numeral) : writeNumeral n = (if n.negative then ['-'] else []) ++
    (toDigits n.whole ++ (writeFraction n.fraction ++ writeExponent n.exponent)) := by
  unfold writeNumeral writeFraction writeExponent
  cases n.exponent <;> simp only [List.append_assoc]

theorem readPower_intDigits (e : Int) {rest : List Char} (hrest : NoDigitFirst rest) :
    readPower (intDigits e ++ rest) = some (some e, rest) := by
  have hread (n : Nat) : readDigits (toDigits n ++ rest) = some (toDigits n, rest) :=
    readDigits_append (toDigits_ne_nil n) (fun _ => isDigit_of_mem_toDigits) hrest
  cases e with
  | ofNat n =>
    have hsign : readSign (toDigits n ++ rest) = (1, toDigits n ++ rest) := by
      cases hdigits : toDigits n with
      | nil => exact absurd hdigits (toDigits_ne_nil n)
      | cons d ds =>
        have hd : d.isDigit = true := isDigit_of_mem_toDigits (hdigits ▸ List.mem_cons_self)
        rw [List.cons_append]
        unfold readSign
        split
        · next heq => cases heq; cases hd
        · next heq => cases heq; cases hd
        · rfl
    show readPower (toDigits n ++ rest) = _
    simp only [readPower, hsign, hread, Option.map_some, digitsValue_toDigits, Int.one_mul]
    rfl
  | negSucc n =>
    show readPower ('-' :: (toDigits (n + 1) ++ rest)) = _
    simp only [readPower, readSign, hread, Option.map_some, digitsValue_toDigits]
    congr 3
    omega

theorem readExponent_append (exponent : Option Int) {rest : List Char} (hrest : Ends rest) :
    readExponent (writeExponent exponent ++ rest) = some (exponent, rest) := by
  cases exponent with
  | some e => exact readPower_intDigits e hrest.noDigitFirst
  | none =>
    show readExponent rest = _
    -- Without an exponent, what stands behind must not look like one.
    unfold readExponent
    split
    · exact absurd rfl (hrest 'e' rfl).2.2.1
    · exact absurd rfl (hrest 'E' rfl).2.2.2
    · rfl

theorem noDigitFirst_exponent (exponent : Option Int) {rest : List Char} (hrest : Ends rest) :
    NoDigitFirst (writeExponent exponent ++ rest) := by
  cases exponent with
  | none => exact hrest.noDigitFirst
  | some e => exact noDigitFirst_cons (by decide)

theorem readFraction_append {fraction : List Char} (hdigits : ∀ d ∈ fraction, d.isDigit = true)
    (exponent : Option Int) {rest : List Char} (hrest : Ends rest) :
    readFraction (writeFraction fraction ++ (writeExponent exponent ++ rest)) =
      some (fraction, writeExponent exponent ++ rest) := by
  have hbehind := noDigitFirst_exponent exponent hrest
  -- A fraction without digits is not written at all, not even its point.
  by_cases hempty : fraction = []
  · subst hempty
    show readFraction (writeExponent exponent ++ rest) = _
    unfold readFraction
    split
    · next heq =>
      cases exponent with
      | none => exact absurd rfl (hrest '.' (by rw [show rest = _ from heq]; rfl)).2.1
      | some e => cases heq
    · rfl
  · have hpoint : writeFraction fraction = '.' :: fraction := if_neg hempty
    rw [hpoint]
    exact readDigits_append hempty hdigits hbehind

theorem readUnsigned_append (negative : Bool) (whole : Nat) {fraction : List Char}
    (hdigits : ∀ d ∈ fraction, d.isDigit = true) (exponent : Option Int) {rest : List Char}
    (hrest : Ends rest) :
    readUnsigned negative
        (toDigits whole ++ (writeFraction fraction ++ (writeExponent exponent ++ rest))) =
      some (⟨negative, whole, fraction, exponent⟩, rest) := by
  have hbehind : NoDigitFirst (writeFraction fraction ++ (writeExponent exponent ++ rest)) := by
    unfold writeFraction
    split
    · exact noDigitFirst_exponent exponent hrest
    · exact noDigitFirst_cons (by decide)
  unfold readUnsigned
  rw [readWhole_toDigits whole hbehind]
  simp only [Option.bind_eq_bind, Option.bind_some, readFraction_append hdigits exponent hrest,
    readExponent_append exponent hrest]
  rfl

/-- A numeral begins with a digit or a minus sign. -/
theorem writeNumeral_front (n : Numeral) :
    ∃ c tail, writeNumeral n = c :: tail ∧ (c = '-' ∨ c.isDigit = true) := by
  rw [writeNumeral_eq]
  cases n.negative with
  | true => exact ⟨'-', _, rfl, .inl rfl⟩
  | false =>
    cases hfront : toDigits n.whole with
    | nil => exact absurd hfront (toDigits_ne_nil n.whole)
    | cons d ds => exact ⟨d, _, rfl, .inr (isDigit_of_mem_toDigits (hfront ▸ List.mem_cons_self))⟩

/-- A numeral is read back digit by digit, whatever does not continue it. -/
theorem readNumeral_append {n : Numeral} (hdigits : ∀ d ∈ n.fraction, d.isDigit = true)
    {rest : List Char} (hrest : Ends rest) :
    readNumeral (writeNumeral n ++ rest) = some (n, rest) := by
  obtain ⟨negative, whole, fraction, exponent⟩ := n
  have hread := readUnsigned_append negative whole hdigits exponent hrest
  rw [writeNumeral_eq]
  simp only [List.append_assoc]
  cases negative with
  | true => exact hread
  | false =>
    show readNumeral (toDigits whole ++ _) = _
    -- Without a sign a numeral begins with a digit, which is not taken for one.
    cases hfront : toDigits whole with
    | nil => exact absurd hfront (toDigits_ne_nil whole)
    | cons d ds =>
      have hd : d.isDigit = true := isDigit_of_mem_toDigits (hfront ▸ List.mem_cons_self)
      rw [hfront] at hread
      rw [List.cons_append] at hread ⊢
      unfold readNumeral
      split
      · next heq => cases heq; cases hd
      · exact hread

/-! ## 2. Strings -/

def pieceOf (c : Char) : Piece :=
  if escapeLetter? c = none ∧ c.toNat < 0x20 then .unit c.toNat else .char c

theorem hexValue?_hexDigit (n : Nat) : hexValue? (hexDigit n) = some (n % 16) := by
  have hall : ∀ k < 16, hexValue? (Nat.digitChar k) = some k := by decide
  exact hall (n % 16) (Nat.mod_lt n (by decide))

theorem readUnit_escapeUnit {u : Nat} (h : u < 0x10000) (rest : List Char) :
    readUnit ([hexDigit (u / 0x1000), hexDigit (u / 0x100), hexDigit (u / 0x10), hexDigit u] ++
      rest) = some (u, rest) := by
  have hvalue :
      (((u / 0x1000 % 16) * 16 + u / 0x100 % 16) * 16 + u / 0x10 % 16) * 16 + u % 16 = u := by
    omega
  simp only [List.cons_append, List.nil_append, readUnit, hexValue?_hexDigit,
    Option.bind_eq_bind, Option.bind_some]
  rw [hvalue]
  rfl

theorem readPiece_escapeChar (c : Char) (rest : List Char) :
    readPiece (escapeChar c ++ rest) = some (some (pieceOf c), rest) := by
  unfold escapeChar
  -- A character is written by its letter, as a unit in hexadecimal figures, or as it is.
  cases hletter : escapeLetter? c with
  | some letter =>
    have hpiece : pieceOf c = .char c := if_neg fun h => by rw [h.1] at hletter; cases hletter
    rw [hpiece]
    unfold escapeLetter? at hletter
    split at hletter <;> cases hletter <;> rfl
  | none =>
    dsimp only
    by_cases hcontrol : c.toNat < 0x20
    · have hpiece : pieceOf c = .unit c.toNat := if_pos ⟨hletter, hcontrol⟩
      have hunit := readUnit_escapeUnit (u := c.toNat) (by omega) rest
      rw [if_pos hcontrol, hpiece]
      show (readUnit ([_, _, _, _] ++ rest)).map _ = _
      rw [hunit]
      rfl
    · have hpiece : pieceOf c = .char c := if_neg fun h => hcontrol h.2
      -- A quote and a backslash have letters.
      have hquote : c ≠ '"' := by rintro rfl; cases hletter
      have hbackslash : c ≠ '\\' := by rintro rfl; cases hletter
      rw [if_neg hcontrol, hpiece]
      show readPiece (c :: rest) = _
      unfold readPiece
      split
      · next heq => cases heq; exact absurd rfl hquote
      · next heq => cases heq; exact absurd rfl hbackslash
      · next heq => cases heq; exact absurd rfl hbackslash
      · next heq =>
        cases heq
        simp [hcontrol, hbackslash]
      · next heq => cases heq

theorem readPieces_escaped (cs : List Char) {fuel : Nat} (hfuel : cs.length < fuel)
    (done : List Piece) (rest : List Char) :
    readPieces fuel done (cs.flatMap escapeChar ++ '"' :: rest) =
      some (done.reverse ++ cs.map pieceOf, rest) := by
  -- By induction on the characters; each takes one step, and the steps outnumber them.
  induction cs generalizing fuel done with
  | nil =>
    cases fuel with
    | zero => cases hfuel
    | succ fuel => simp [readPieces, readPiece]
  | cons c cs ih =>
    cases fuel with
    | zero => cases hfuel
    | succ fuel =>
      have hrest := ih (Nat.lt_of_succ_lt_succ hfuel) (pieceOf c :: done)
      rw [List.flatMap_cons, List.append_assoc]
      simp only [readPieces, readPiece_escapeChar]
      rw [hrest]
      simp

/-- Written characters never come in halves of surrogates. -/
theorem joinPieces_map (cs done : List Char) :
    joinPieces done (cs.map pieceOf) = some (done.reverse ++ cs) := by
  induction cs generalizing done with
  | nil => simp [joinPieces]
  | cons c cs ih =>
    have hrest := ih (c :: done)
    rw [List.reverse_cons, List.append_assoc, List.singleton_append] at hrest
    rw [List.map_cons]
    by_cases hunit : escapeLetter? c = none ∧ c.toNat < 0x20
    · -- A control is far below the surrogates.
      have hpiece : pieceOf c = .unit c.toNat := if_pos hunit
      have htrailing : isTrailing c.toNat = false := by simp [isTrailing]; omega
      have hleading : isLeading c.toNat = false := by simp [isLeading]; omega
      rw [hpiece, joinPieces.eq_def]
      dsimp only
      rw [htrailing, hleading, Char.ofNat_toNat]
      exact hrest
    · have hpiece : pieceOf c = .char c := if_neg hunit
      rw [hpiece, joinPieces]
      exact hrest

theorem length_le_flatMap_escapeChar (cs : List Char) :
    cs.length ≤ (cs.flatMap escapeChar).length := by
  induction cs with
  | nil => exact Nat.le_refl 0
  | cons c cs ih =>
    have hone : 1 ≤ (escapeChar c).length := by
      unfold escapeChar
      split
      · exact Nat.le_add_left 1 1
      · split
        · exact Nat.le_add_left 1 5
        · exact Nat.le_refl 1
    rw [List.flatMap_cons, List.length_append, List.length_cons]
    omega

/-- The rest of a written string is read back, whatever its characters are. -/
theorem readString_append (s : String) (rest : List Char) :
    readString (s.toList.flatMap escapeChar ++ '"' :: rest) = some (some s, rest) := by
  have hlength := length_le_flatMap_escapeChar s.toList
  have hfuel : s.toList.length < (s.toList.flatMap escapeChar ++ '"' :: rest).length + 1 := by
    rw [List.length_append]
    omega
  unfold readString
  rw [readPieces_escaped s.toList hfuel [] rest]
  show some ((joinPieces [] (s.toList.map pieceOf)).map String.ofList, rest) = _
  rw [joinPieces_map, Option.map_some]
  show some (some (String.ofList s.toList), rest) = _
  rw [String.ofList_toList]

end DiceCup.Json

/-!
# Digits — decimal numerals

A numeral is a run of ASCII digits.  Reading takes the longest run at the front of a text;
writing uses as few digits as the number needs.  `readNat_toDigits` ties the two together: a
written number is read back whatever follows it, as long as that does not start with a digit.
-/

namespace DiceCup.Text

def NoDigitFirst (cs : List Char) : Prop := ∀ c ∈ cs.head?, c.isDigit = false

/-- The value of a run of digits, the most significant first; no digits have the value zero. -/
def digitsValue (ds : List Char) : Nat := Nat.ofDigitChars 10 ds 0

def toDigits (n : Nat) : List Char := Nat.toDigits 10 n

def readNat (cs : List Char) : Option (Nat × List Char) :=
  let digits := cs.takeWhile Char.isDigit
  if digits = [] then none else some (digitsValue digits, cs.dropWhile Char.isDigit)

/-- Reads a numeral whose value does not exceed `most`.  A larger numeral is none at all: no
shorter piece of it is read in its place. -/
def readNatUpTo (most : Nat) (cs : List Char) : Option (Nat × List Char) :=
  (readNat cs).filter fun (n, _) => n ≤ most

/-- The digits of a number have its value. -/
theorem digitsValue_toDigits (n : Nat) : digitsValue (toDigits n) = n :=
  Nat.ofDigitChars_toDigits (by decide) (by decide)

theorem isDigit_of_mem_toDigits {n : Nat} {c : Char} (h : c ∈ toDigits n) : c.isDigit = true :=
  Nat.isDigit_of_mem_toDigits (by decide) (by decide) h

theorem toDigits_ne_nil (n : Nat) : toDigits n ≠ [] := Nat.toDigits_ne_nil

theorem takeWhile_digits {ds rest : List Char} (hd : ∀ c ∈ ds, c.isDigit = true)
    (hr : NoDigitFirst rest) : (ds ++ rest).takeWhile Char.isDigit = ds := by
  rw [List.takeWhile_append_of_pos hd]
  cases rest with
  | nil => simp
  | cons c rest => simp [hr c rfl]

theorem dropWhile_digits {ds rest : List Char} (hd : ∀ c ∈ ds, c.isDigit = true)
    (hr : NoDigitFirst rest) : (ds ++ rest).dropWhile Char.isDigit = rest := by
  rw [List.dropWhile_append_of_pos hd]
  cases rest with
  | nil => simp
  | cons c rest => simp [hr c rfl]

/-- A run of digits is read up to the first character that is none. -/
theorem readNat_append {ds rest : List Char} (hne : ds ≠ []) (hd : ∀ c ∈ ds, c.isDigit = true)
    (hr : NoDigitFirst rest) : readNat (ds ++ rest) = some (digitsValue ds, rest) := by
  simp [readNat, takeWhile_digits hd hr, dropWhile_digits hd hr, hne]

theorem readNat_toDigits (n : Nat) {rest : List Char} (hr : NoDigitFirst rest) :
    readNat (toDigits n ++ rest) = some (n, rest) := by
  rw [readNat_append (toDigits_ne_nil n) (fun _ => isDigit_of_mem_toDigits) hr,
    digitsValue_toDigits]

/-! ## Signed numbers -/

def intDigits : Int → List Char
  | .ofNat n => toDigits n
  | .negSucc n => '-' :: toDigits (n + 1)

def intText (n : Int) : String := String.ofList (intDigits n)

def natText (n : Nat) : String := String.ofList (toDigits n)

def wholeNat (cs : List Char) : Option Nat :=
  match readNat cs with
  | some (n, []) => some n
  | _ => none

def wholeInt : List Char → Option Int
  | '+' :: cs => (wholeNat cs).map Int.ofNat
  | '-' :: cs => (wholeNat cs).map fun n => -Int.ofNat n
  | cs => (wholeNat cs).map Int.ofNat

theorem wholeNat_eq_some {ds : List Char} (hne : ds ≠ []) (hd : ∀ c ∈ ds, c.isDigit = true) :
    wholeNat ds = some (digitsValue ds) := by
  have h : readNat (ds ++ []) = some (digitsValue ds, []) :=
    readNat_append hne hd (by simp [NoDigitFirst])
  rw [List.append_nil] at h
  simp [wholeNat, h]

end DiceCup.Text

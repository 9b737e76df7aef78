import DiceCup.Random.Source

/-!
# Faces — a fair die from random words

The product of a word and the number of sides has its upper half below the number of sides.  Words
whose product has a lower half below `2 ^ 32 mod sides` are passed over, so that every face is left
with the same number of words.
-/

namespace DiceCup.Random

/-- The least lower half that counts: `2 ^ 32` modulo the number of sides. -/
def leastLow (sides : UInt32) : UInt32 := (0 - sides) % sides

def accepts (sides word : UInt32) : Bool := leastLow sides ≤ word * sides

/-- The face of a word: one more than the upper half of its product with the number of sides. -/
def face (sides word : UInt32) : UInt32 :=
  (1 : UInt32) + ((word.toUInt64 * sides.toUInt64) >>> 32).toUInt32

/-- How many words are passed over at most.  A generator's words repeat after as many, so the limit
changes no die that comes to an end without it. -/
def patience : Nat := 0x100000000000000000

/-- The face of the first word that is accepted, or of the next one when patience is at its end. -/
def drawWithin {σ : Type} [WordSource σ] (sides : UInt32) : Nat → σ → UInt32 × σ
  | 0, source =>
    let (word, source) := WordSource.next source
    (face sides word, source)
  | left + 1, source =>
    let (word, source) := WordSource.next source
    if accepts sides word then (face sides word, source) else drawWithin sides left source

def drawFace {σ : Type} [WordSource σ] (sides : UInt32) (source : σ) : UInt32 × σ :=
  drawWithin sides patience source

/-- The scaling of a word does not wrap around. -/
theorem face_toNat {sides : UInt32} (h : sides ≠ 0) (word : UInt32) :
    (face sides word).toNat = 1 + word.toNat * sides.toNat / 0x100000000 := by
  have hw := word.toNat_lt
  have hs := sides.toNat_lt
  have hpos : 0 < sides.toNat :=
    Nat.pos_of_ne_zero fun h0 => h (UInt32.toNat.inj h0)
  have hprod : word.toNat * sides.toNat < 0x100000000 * sides.toNat :=
    Nat.mul_lt_mul_of_pos_right hw hpos
  have hdiv : word.toNat * sides.toNat / 0x100000000 < sides.toNat := Nat.div_lt_of_lt_mul hprod
  have h64 : word.toNat * sides.toNat < 0x10000000000000000 :=
    Nat.lt_of_lt_of_le hprod (by omega)
  simp only [face, UInt32.toNat_add, UInt64.toNat_toUInt32, UInt64.toNat_shiftRight,
    UInt64.toNat_mul, UInt32.toNat_toUInt64, UInt32.toNat_one]
  rw [Nat.mod_eq_of_lt h64]
  simp only [UInt64.reduceToNat, Nat.reduceMod, Nat.shiftRight_eq_div_pow]
  omega

/-- A face lies between one and the number of sides. -/
theorem face_mem {sides : UInt32} (h : sides ≠ 0) (word : UInt32) :
    1 ≤ face sides word ∧ face sides word ≤ sides := by
  have hpos : 0 < sides.toNat :=
    Nat.pos_of_ne_zero fun h0 => h (UInt32.toNat.inj h0)
  have hdiv : word.toNat * sides.toNat / 0x100000000 < sides.toNat :=
    Nat.div_lt_of_lt_mul (Nat.mul_lt_mul_of_pos_right word.toNat_lt hpos)
  rw [UInt32.le_iff_toNat_le, UInt32.le_iff_toNat_le, face_toNat h]
  exact ⟨by simp, by omega⟩

/-- A face is on the die, also where patience ends. -/
theorem drawWithin_mem {σ : Type} [WordSource σ] {sides : UInt32} (h : sides ≠ 0) (left : Nat)
    (source : σ) :
    1 ≤ (drawWithin sides left source).1 ∧ (drawWithin sides left source).1 ≤ sides := by
  induction left generalizing source with
  | zero => exact face_mem h _
  | succ left ih =>
    simp only [drawWithin]
    split
    · exact face_mem h _
    · exact ih _

/-- Whatever the source, a die shows one of its sides. -/
theorem drawFace_mem {σ : Type} [WordSource σ] {sides : UInt32} (h : sides ≠ 0) (source : σ) :
    1 ≤ (drawFace sides source).1 ∧ (drawFace sides source).1 ≤ sides :=
  drawWithin_mem h patience source

end DiceCup.Random

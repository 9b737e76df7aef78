import DiceCup.Proofs.Binary.Rounding
import DiceCup.Proofs.Figure.Narrowing

/-!
# JSON integers as figures — what the way through a double does to them

A JSON integer that fits in 64 signed bits stands for itself.  For those that fit only without a
sign the nearest double decides: it is too large, unless it is `2 ^ 63`, which passes for the largest
signed number.  So the numbers from `2 ^ 63` to half a step above it, and no others, stand for
something else than the same machine integer, which stands for nothing.
-/

namespace DiceCup

namespace Figure

/-- The integers from `2 ^ 63` on whose nearest double is `2 ^ 63`. -/
def Saturated (n : Int) : Prop := 0x8000000000000000 ≤ n ∧ n ≤ 0x8000000000000400

instance (n : Int) : Decidable (Saturated n) := inferInstanceAs (Decidable (_ ∧ _))

theorem int64?_of_large {n : Int} (h : 0x8000000000000000 ≤ n) : Width.int64? n = none := by
  have hout : ¬ Width.inInt64 n = true := by
    rw [Width.inInt64_iff]
    omega
  exact if_neg hout

/-- An integer counts if it fits in 64 signed bits, or if its nearest double is `2 ^ 63`. -/
theorem numberInt64?_whole {n : Int} (hrange : Width.inInt64 n = true ∨ Width.inUInt64 n = true) :
    numberInt64? (.whole n) = if Saturated n then some 0x7FFFFFFFFFFFFFFF else Width.int64? n := by
  -- What fits is taken as it is; only a larger one goes by way of a double.
  by_cases hfits : Width.inInt64 n = true
  · have hsmall : ¬ Saturated n := by
      rw [Width.inInt64_iff] at hfits
      unfold Saturated
      omega
    rw [numberInt64?, if_pos hfits, if_neg hsmall, Width.int64?, if_pos hfits]
  · have hwide : Width.inUInt64 n = true := hrange.resolve_left hfits
    rw [Width.inUInt64_iff] at hwide
    have hlow : 0x8000000000000000 ≤ n := by
      rw [Width.inInt64_iff] at hfits
      omega
    obtain ⟨m, rfl⟩ := Int.eq_ofNat_of_zero_le hwide.1
    rw [numberInt64?, if_neg hfits, Binary.toInt64?_ofInt_natCast (by omega) (by omega),
      int64?_of_large hlow]
    have hsaturated : Saturated m ↔ m ≤ 0x8000000000000400 := by
      unfold Saturated
      omega
    simp only [hsaturated]

theorem toInt64?_json_integer {x : Json.Numeral} {n : Int} (hx : x.integer? = some n)
    (hrange : Width.inInt64 n = true ∨ Width.inUInt64 n = true) :
    (json (.number x)).toInt64? =
      if Saturated n then some 0x7FFFFFFFFFFFFFFF else (whole n).toInt64? := by
  show x.number?.bind numberInt64? = _
  rw [Json.Numeral.number?_of_integer? hx hrange, Option.bind_some, numberInt64?_whole hrange]
  rfl

/-- **A JSON integer stands for what the same machine integer stands for, except just above the
largest signed number.**  From `2 ^ 63` on, up to half a step of a double, it is taken for
`2 ^ 63 - 1` and turned down under that name; all larger ones are no integers. -/
theorem json_integers_but_saturated (what : String) {x : Json.Numeral} {n : Int}
    (hx : x.integer? = some n) (hrange : Width.inInt64 n = true ∨ Width.inUInt64 n = true) :
    ((json (.number x)).toInt64? = (whole n).toInt64? ↔ ¬ Saturated n) ∧
    (n ≤ 0x7FFFFFFFFFFFFFFF → (json (.number x)).toInt64? = some n) ∧
    (Saturated n → (json (.number x)).integer what = .ok 0x7FFFFFFFFFFFFFFF ∧
      (json (.number x)).int32 what = .error (.outOfRange what 0x7FFFFFFFFFFFFFFF) ∧
      (json (.number x)).positive what = .error (.outOfRange what 0x7FFFFFFFFFFFFFFF)) ∧
    (0x8000000000000400 < n →
      (json (.number x)).int32 what = .error (.notAnInteger what (json (.number x)).shown) ∧
      (json (.number x)).positive what = .error (.notAnInteger what (json (.number x)).shown)) := by
  have hstands := toInt64?_json_integer hx hrange
  refine ⟨⟨?differs, fun h => ?agrees⟩, fun hsmall => ?small, fun h => ?saturated,
    fun hlarge => ?large⟩
  case differs =>
    intro heq h
    -- The machine integer is too large, while the JSON integer stands for a number.
    have hnone : (whole n).toInt64? = none := int64?_of_large h.1
    rw [hstands, if_pos h, hnone] at heq
    cases heq
  case agrees => rw [hstands, if_neg h]
  case small =>
    have h : ¬ Saturated n := fun h => absurd h.1 (by omega)
    have hfits : Width.inInt64 n = true := by
      rw [Width.inInt64_iff, Width.inUInt64_iff] at hrange
      rw [Width.inInt64_iff]
      omega
    rw [hstands, if_neg h, toInt64?, Width.int64?, if_pos hfits]
  case saturated =>
    rw [if_pos h] at hstands
    refine ⟨?_, int32_of_some hstands, positive_of_some hstands⟩
    rw [integer, hstands]
  case large =>
    have h : ¬ Saturated n := fun h => absurd h.2 (by omega)
    have hnone : (whole n).toInt64? = none := int64?_of_large (by omega)
    rw [if_neg h, hnone] at hstands
    exact ⟨int32_of_none hstands, positive_of_none hstands⟩

/-- The last number that is rounded to `2 ^ 63`, half-way to the next double. -/
theorem json_integers_but_saturated_tie :
    (Json.Numeral.ofInt 0x8000000000000400).integer? = some 0x8000000000000400 ∧
    Width.inUInt64 0x8000000000000400 = true ∧ Saturated 0x8000000000000400 ∧
    (json (.ofInt 0x8000000000000400)).int32 "bonus" =
      .error (.outOfRange "bonus" 0x7FFFFFFFFFFFFFFF) ∧
    (json (.ofInt 0x8000000000000401)).toInt64? = (whole 0x8000000000000401).toInt64? := by
  have hwide : Width.inUInt64 0x8000000000000400 = true := by decide
  have htie : Saturated 0x8000000000000400 := by decide
  have hsaturated := json_integers_but_saturated "bonus" (Json.Numeral.integer?_ofInt _) (.inr hwide)
  have hnext := json_integers_but_saturated "bonus" (n := 0x8000000000000401)
    (Json.Numeral.integer?_ofInt _) (.inr (by decide))
  exact ⟨Json.Numeral.integer?_ofInt _, hwide, htie, (hsaturated.2.2.1 htie).2.1,
    hnext.1.mpr (by decide)⟩

/-- As a JSON integer `2 ^ 63` stands for the number below it and is turned down under that name; as
a machine integer it stands for nothing. -/
theorem json_integer_saturates :
    (Json.Numeral.ofInt 0x8000000000000000).integer? = some 0x8000000000000000 ∧
    Width.inUInt64 0x8000000000000000 = true ∧
    (json (.ofInt 0x8000000000000000)).toInt64? ≠ (whole 0x8000000000000000).toInt64? ∧
    (json (.ofInt 0x8000000000000000)).integer "bonus" = .ok 0x7FFFFFFFFFFFFFFF ∧
    (json (.ofInt 0x8000000000000000)).int32 "bonus" =
      .error (.outOfRange "bonus" 0x7FFFFFFFFFFFFFFF) :=
  ⟨by decide, by decide, by decide, rfl, rfl⟩

end Figure

end DiceCup

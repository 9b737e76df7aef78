import DiceCup.Proofs.Figure.Narrowing
import DiceCup.Proofs.Text.Signed

/-!
# Texts as figures — which texts stand for an integer

A text stands for the integer that it denotes, blanks at its ends aside, if that fits in 64 signed
bits, and for nothing otherwise.  A JSON string stands for what its text stands for; only the way in
which a message shows it is its own.
-/

namespace DiceCup

namespace Figure

/-! ## 1. What a text stands for -/

/-- A text stands for the integer that it denotes, within 64 signed bits. -/
theorem textInt64?_eq_some_iff {s : String} {z : Int} : textInt64? s = some z ↔
    Text.Denotes s.toList z ∧ -0x8000000000000000 ≤ z ∧ z ≤ 0x7FFFFFFFFFFFFFFF := by
  rw [← Width.inInt64_iff, ← Text.wholeInt_trim_eq_some_iff, textInt64?, Option.bind_eq_some_iff]
  constructor
  · rintro ⟨y, hread, hfits⟩
    obtain ⟨rfl, hrange⟩ := Width.int64?_eq_some_iff.mp hfits
    exact ⟨hread, hrange⟩
  · rintro ⟨hread, hrange⟩
    exact ⟨z, hread, Width.int64?_eq_some_iff.mpr ⟨rfl, hrange⟩⟩

theorem textInt64?_eq_none {s : String}
    (h : ∀ z, Text.Denotes s.toList z → z < -0x8000000000000000 ∨ 0x7FFFFFFFFFFFFFFF < z) :
    textInt64? s = none := by
  rw [Option.eq_none_iff_forall_ne_some]
  intro z hread
  obtain ⟨hdenotes, hlow, hhigh⟩ := textInt64?_eq_some_iff.mp hread
  have hout := h z hdenotes
  omega

/-! ## 2. Carriers of a text -/

/-- The figures that hold a text: the text itself, which is the same figure whoever owns it, and the
JSON string. -/
def carriers (s : String) : List Figure := [.text s, .json (.ofString s)]

/-- It does not matter what holds a text. -/
theorem toInt64?_of_mem_carriers {f : Figure} {s : String} (h : f ∈ carriers s) :
    f.toInt64? = textInt64? s := by
  rw [carriers, List.mem_cons, List.mem_singleton] at h
  rcases h with rfl | rfl <;> rfl

theorem shown_json_ofString (s : String) :
    (json (.ofString s)).shown = "String(" ++ Text.quoted s ++ ")" := by
  apply String.toList_injective
  rw [String.toList_append, String.toList_append]
  show (String.ofList ("String".toList ++ '(' :: (Text.quoted s).toList ++ [')'])).toList = _
  rw [String.toList_ofList]
  rfl

/-! ## 3. Narrowing a text -/

/-- **A text narrows to the integer that it denotes, and nothing else does.**  Leave out the blanks
at its ends: if that is a signed numeral whose value fits in 64 bits, then the value decides, and
whatever does not fit is named as it was read.  Every other text is no integer, however long its
digits are.  All carriers of a text agree but for the way in which they show it. -/
theorem texts_narrow (what s : String) :
    (∀ f ∈ carriers s,
      (∀ z, Text.Denotes s.toList z → -0x8000000000000000 ≤ z → z ≤ 0x7FFFFFFFFFFFFFFF →
        f.int32 what = (if -0x80000000 ≤ z ∧ z ≤ 0x7FFFFFFF then .ok (Int32.ofInt z)
          else .error (.outOfRange what z)) ∧
        f.positive what = if z ≤ 0 then .error (.notPositive what z)
          else if z ≤ 0xFFFFFFFF then .ok z.toNat.toUInt32 else .error (.outOfRange what z)) ∧
      ((∀ z, Text.Denotes s.toList z → z < -0x8000000000000000 ∨ 0x7FFFFFFFFFFFFFFF < z) →
        f.int32 what = .error (.notAnInteger what f.shown) ∧
        f.positive what = .error (.notAnInteger what f.shown))) ∧
    ((text s).int32 what = (json (.ofString s)).int32 what ∧
        (text s).positive what = (json (.ofString s)).positive what ∨
      ((text s).int32 what = .error (.notAnInteger what (Text.quoted s)) ∧
          (text s).positive what = .error (.notAnInteger what (Text.quoted s))) ∧
        (json (.ofString s)).int32 what =
          .error (.notAnInteger what ("String(" ++ Text.quoted s ++ ")")) ∧
        (json (.ofString s)).positive what =
          .error (.notAnInteger what ("String(" ++ Text.quoted s ++ ")"))) := by
  refine ⟨fun f hf => ⟨?value, ?noValue⟩, ?alike⟩
  case value =>
    intro z hdenotes hlow hhigh
    have hstands : f.toInt64? = some z := by
      rw [toInt64?_of_mem_carriers hf]
      exact textInt64?_eq_some_iff.mpr ⟨hdenotes, hlow, hhigh⟩
    exact ⟨int32_of_some hstands, positive_of_some hstands⟩
  case noValue =>
    intro hout
    have hstands : f.toInt64? = none := by
      rw [toInt64?_of_mem_carriers hf]
      exact textInt64?_eq_none hout
    exact ⟨int32_of_none hstands, positive_of_none hstands⟩
  case alike =>
    have htext : (text s).toInt64? = textInt64? s := rfl
    have hjson : (json (.ofString s)).toInt64? = textInt64? s := rfl
    -- Both read the same number, or both read none and show the text in their own way.
    cases hread : textInt64? s with
    | some z =>
      rw [hread] at htext hjson
      left
      rw [int32_of_some htext, int32_of_some hjson, positive_of_some htext, positive_of_some hjson]
      exact ⟨rfl, rfl⟩
    | none =>
      rw [hread] at htext hjson
      right
      rw [← shown_json_ofString]
      exact ⟨⟨int32_of_none htext, positive_of_none htext⟩, int32_of_none hjson,
        positive_of_none hjson⟩

def paddedCount : String := "\u00a0+0004294967295 \n"

theorem denotes_paddedCount : Text.Denotes paddedCount.toList 4294967295 :=
  Text.wholeInt_trim_eq_some_iff.mp (by decide)

/-- Two signs denote nothing. -/
theorem not_denotes_two_signs (z : Int) : ¬ Text.Denotes "+-5".toList z := by
  intro h
  have hnone : Text.wholeInt (Text.trim "+-5".toList) = none := by decide
  rw [Text.wholeInt_trim_eq_some_iff.mpr h] at hnone
  cases hnone

theorem texts_narrow_padded :
    (Text.Denotes paddedCount.toList 4294967295 ∧
      (text paddedCount).int32 "bonus" = .error (.outOfRange "bonus" 4294967295) ∧
      (json (.ofString paddedCount)).positive "size" = .ok 4294967295) ∧
    (∀ z, ¬ Text.Denotes "+-5".toList z) ∧
      (json (.ofString "+-5")).int32 "bonus" = .error (.notAnInteger "bonus" "String(\"+-5\")") := by
  have hpadded := denotes_paddedCount
  have htext := ((texts_narrow "bonus" paddedCount).1 (.text paddedCount) List.mem_cons_self).1 _
    hpadded (by decide) (by decide)
  have hjson := ((texts_narrow "size" paddedCount).1 (.json (.ofString paddedCount))
    (List.mem_cons_of_mem _ List.mem_cons_self)).1 _ hpadded (by decide) (by decide)
  have hsigns := ((texts_narrow "bonus" "+-5").1 (.json (.ofString "+-5"))
    (List.mem_cons_of_mem _ List.mem_cons_self)).2 fun z h => absurd h (not_denotes_two_signs z)
  have hshown : (json (.ofString "+-5")).shown = "String(\"+-5\")" := by decide +kernel
  refine ⟨⟨hpadded, htext.1, hjson.2⟩, not_denotes_two_signs, ?_⟩
  rw [hsigns.1, hshown]

end Figure

end DiceCup

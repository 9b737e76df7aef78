import DiceCup.Error
import DiceCup.Json.Shown

/-!
# Figures — values that may stand for an integer

A figure is a machine integer, a floating-point value, a text or a JSON value.  Integers count if
they fit in 64 signed bits, floating-point values lose their fraction, texts may have blanks around
a signed numeral, and the JSON `null` is zero.  Nothing else stands for an integer.
-/

namespace DiceCup

inductive Figure where
  | whole (n : Int)
  | double (x : Binary.Value)
  | single (x : Binary.Value)
  | text (s : String)
  | json (v : Json)

namespace Figure

def textInt64? (s : String) : Option Int :=
  (Text.wholeInt (Text.trim s.toList)).bind Width.int64?

/-- A JSON number that is no integer of 64 signed bits is read as a double. -/
def numberInt64? : Json.Number → Option Int
  | .whole n => if Width.inInt64 n then some n else (Binary.Value.ofInt n).toInt64?
  | .real x => x.toInt64?

def jsonInt64? : Json → Option Int
  | .null => some 0
  | .number n => n.number?.bind numberInt64?
  | .text s => s.bind textInt64?
  | _ => none

def toInt64? : Figure → Option Int
  | .whole n => Width.int64? n
  | .double x | .single x => x.toInt64?
  | .text s => textInt64? s
  | .json v => jsonInt64? v

/-- Floating-point values are written positionally from `0.0001` to below `10 ^ 16`. -/
def floatLayout : Binary.Layout where
  plainFrom := -4
  plainBelow := 16
  plusSign := false
  tie := .up

def shown : Figure → String
  | .whole n => Text.intText n
  | .double x => String.ofList (floatLayout.text .double x)
  | .single x => String.ofList (floatLayout.text .single x)
  | .text s => Text.quoted s
  | .json v => String.ofList v.shown

/-! ## Narrowing -/

def integer (what : String) (f : Figure) : Except RollError Int :=
  match f.toInt64? with
  | some n => .ok n
  | none => .error (.notAnInteger what f.shown)

def int32 (what : String) (f : Figure) : Except RollError Int32 := do
  let n ← f.integer what
  match Width.int32? n with
  | some n => return n
  | none => throw (.outOfRange what n)

def positive (what : String) (f : Figure) : Except RollError UInt32 := do
  let n ← f.integer what
  if n ≤ 0 then throw (.notPositive what n)
  else
    match Width.uint32? n with
    | some n => return n
    | none => throw (.outOfRange what n)

end Figure

end DiceCup

import DiceCup.Formula.Basic
import DiceCup.Json.Decode

/-! # Formulas as JSON — an object with the five parts, the optional ones `null` where absent -/

namespace DiceCup

def Action.jsonNames : List (String × Action) := [("roll", .roll), ("total", .total)]

def Action.toJson : Action → Json
  | .roll => .ofString "roll"
  | .total => .ofString "total"

def Action.ofJson? : Json.Decoder Action := Json.choice? Action.jsonNames

def KeepMode.jsonNames : List (String × KeepMode) := [("highest", .highest), ("lowest", .lowest)]

def KeepMode.toJson : KeepMode → Json
  | .highest => .ofString "highest"
  | .lowest => .ofString "lowest"

def KeepMode.ofJson? : Json.Decoder KeepMode := Json.choice? KeepMode.jsonNames

namespace Keep

def toJson (k : Keep) : Json :=
  .ofFields [("mode", k.mode.toJson), ("count", .ofNat k.count.toNat)]

def ofJson? : Json.Decoder Keep := fun v => do
  let f ← Json.Fields.ofJson? ["mode", "count"] v
  let mode ← f.required "mode" KeepMode.ofJson?
  let count ← f.required "count" Json.uint32?
  return { mode, count }

end Keep

namespace Formula

def toJson (f : Formula) : Json :=
  .ofFields [("action", f.action.toJson), ("sides", .ofNat f.sides.toNat),
    ("count", .ofNat f.count.toNat), ("keep", .ofOption Keep.toJson f.keep),
    ("modifier", .ofOption (fun m : Int32 => .ofInt m.toInt) f.modifier)]

def ofJson? : Json.Decoder Formula := fun v => do
  let f ← Json.Fields.ofJson? ["action", "sides", "count", "keep", "modifier"] v
  let action ← f.required "action" Action.ofJson?
  let sides ← f.required "sides" Json.uint32?
  let count ← f.required "count" Json.uint32?
  let keep ← f.optional "keep" Keep.ofJson?
  let modifier ← f.optional "modifier" Json.int32?
  return { action, sides, count, keep, modifier }

end Formula

end DiceCup

import DiceCup.Technique
import DiceCup.Text.Characters
import DiceCup.Text.Digits

/-!
# Errors — why a request is turned down

Each constructor is a cause, `RollError.message` its wording and `RollError.kind` the broad class
that a caller may react to.
-/

namespace DiceCup

inductive RollError where
  /-- The value shown does not stand for an integer. -/
  | notAnInteger (what shown : String)
  | notPositive (what : String) (value : Int)
  | outOfRange (what : String) (value : Int)
  | totalOutOfRange (sides count : UInt32) (bonus : Int32)
  | keepExceedsDice (requested available : UInt32)
  | unknownTechnique (name : String)
  | bonusMismatch (explicit encoded : Int32)
  | keptExceedsRolled (kept rolled : UInt32)
  | noSuchOperation (identifier : String)
deriving DecidableEq, Repr

namespace RollError

inductive Kind where
  /-- A value does not convert, is out of range or names something unknown. -/
  | invalidArgument
  /-- A request contradicts itself or a configured bound. -/
  | policyViolation
  /-- An identifier is no roll identifier. -/
  | noSuchOperation
deriving DecidableEq, Repr

def kind : RollError → Kind
  | .notAnInteger .. | .notPositive .. | .outOfRange .. | .totalOutOfRange ..
  | .keepExceedsDice .. | .unknownTechnique .. => .invalidArgument
  | .bonusMismatch .. | .keptExceedsRolled .. => .policyViolation
  | .noSuchOperation .. => .noSuchOperation

def mostTotal : Nat := 0x7FFFFFFF

def message : RollError → String
  | .notAnInteger what shown =>
    what ++ " must be a value that converts to an integer, got " ++ shown
  | .notPositive what value => what ++ " must be a positive integer, got " ++ Text.intText value
  | .outOfRange what value => what ++ " is out of range: " ++ Text.intText value
  | .totalOutOfRange sides count bonus =>
    Text.natText count.toNat ++ "d" ++ Text.natText sides.toNat ++ " with a bonus of " ++
      Text.intText bonus.toInt ++ " can total more than " ++ Text.natText mostTotal
  | .keepExceedsDice requested available =>
    "keep count " ++ Text.natText requested.toNat ++ " cannot exceed die count " ++
      Text.natText available.toNat
  | .unknownTechnique name =>
    "unrecognized randomization technique " ++ Text.quoted name ++ ", must be one of " ++
      String.intercalate ", " (Technique.all.map Technique.name)
  | .bonusMismatch explicit encoded =>
    "bonus integrity failure: modifier specified in call arguments was " ++
      Text.intText explicit.toInt ++ ", modifier specified in identifier was " ++
      Text.intText encoded.toInt
  | .keptExceedsRolled kept rolled =>
    "ability score dice kept (" ++ Text.natText kept.toNat ++
      ") cannot exceed ability score dice rolled (" ++ Text.natText rolled.toNat ++ ")"
  | .noSuchOperation identifier => "no such operation: " ++ identifier

end RollError

def Technique.ofName (name : String) : Except RollError Technique :=
  match Technique.ofName? name with
  | some t => .ok t
  | none => .error (.unknownTechnique name)

end DiceCup

import DiceCup.Binary.Decimal
import DiceCup.Json.Writer
import DiceCup.Text.Characters

/-!
# Shown JSON — a value inside a message

A message shows a JSON value by the names of its kinds, as in `Array [Number(1), Null]`.  The
members of an object are shown in the order of their keys, the last of several with one key.
-/

namespace DiceCup

namespace Json

open Text

/-- Real numbers are written positionally from `0.00001` to below `10 ^ 16`. -/
def realLayout : Binary.Layout where
  plainFrom := -5
  plainBelow := 16
  plusSign := true
  tie := .toEven

def showNumber : Number → List Char
  | .whole n => intDigits n
  | .real x => realLayout.text .double x

/-- Puts a shown member into its place, in place of an earlier one with its key. -/
def insertMember (key : String) (shown : List Char) :
    List (String × List Char) → List (String × List Char)
  | [] => [(key, shown)]
  | (k, s) :: rest =>
    if key < k then (key, shown) :: (k, s) :: rest
    else if key = k then (key, shown) :: rest
    else (k, s) :: insertMember key shown rest

def tagged (tag : String) (inner : List Char) : List Char := tag.toList ++ '(' :: inner ++ [')']

mutual

def shown : Json → List Char
  | .null => "Null".toList
  | .bool b => tagged "Bool" (if b then "true" else "false").toList
  | .number n =>
    tagged "Number" (match n.number? with
      | some v => showNumber v
      | none => writeNumeral n)
  | .text s => tagged "String" (quoted (s.getD "\ufffd")).toList
  | .array items => "Array [".toList ++ separated ", ".toList (shownItems items) ++ [']']
  | .object members =>
    let parts := (shownMembers [] members).map fun (key, shown) =>
      (quoted key).toList ++ ": ".toList ++ shown
    "Object \x7b".toList ++ separated ", ".toList parts ++ ['\x7d']

def shownItems : List Json → List (List Char)
  | [] => []
  | item :: items => shown item :: shownItems items

def shownMembers (done : List (String × List Char)) :
    List (Option String × Json) → List (String × List Char)
  | [] => done
  | (key, value) :: members =>
    shownMembers (insertMember (key.getD "\ufffd") (shown value) done) members

end

end Json

end DiceCup

import DiceCup.Json.Basic

/-!
# Decoding JSON — from values to typed data

A decoder gives the typed value that a JSON value stands for, or nothing where it does not fit.  A
record may be an object or an array of its fields in order.  In an object, keys that no field has
are passed over whatever their values hold; a field may not be given twice.  An array holds no more
items than the record has fields.
-/

namespace DiceCup

namespace Json

abbrev Decoder (α : Type) := Json → Option α

/-! ## 1. Scalars and lists -/

def bool? : Decoder Bool
  | .bool b => some b
  | _ => none

def string? : Decoder String
  | .text s => s
  | _ => none

def integer? : Decoder Int
  | .number n => n.integer?
  | _ => none

def uint32? : Decoder UInt32 := fun v => v.integer?.bind Width.uint32?

def int32? : Decoder Int32 := fun v => v.integer?.bind Width.int32?

def list? {α : Type} (item : Decoder α) : Decoder (List α)
  | .array items => items.mapM item
  | _ => none

def option? {α : Type} (decode : Decoder α) : Decoder (Option α)
  | .null => some none
  | v => (decode v).map some

/-- A choice among named values: the name by itself, or as the only key of an object, with the
value `null`. -/
def choice? {α : Type} (names : List (String × α)) : Decoder α
  | .text (some name) => names.lookup name
  | .object [(some name, .null)] => names.lookup name
  | _ => none

/-! ## 2. Records -/

structure Fields where
  /-- The record was an array, in which no field can be left out on its own. -/
  positional : Bool
  present : List (String × Json)

namespace Fields

def ofMembers? (names : List String) : List (Option String × Json) → Option (List (String × Json))
  | [] => some []
  | (none, _) :: _ => none
  | (some key, value) :: members => do
    let present ← ofMembers? names members
    if names.contains key then
      if (present.lookup key).isSome then none else some ((key, value) :: present)
    else some present

def ofJson? (names : List String) : Json → Option Fields
  | .object members => (ofMembers? names members).map (⟨false, ·⟩)
  | .array items =>
    if items.length ≤ names.length then some ⟨true, names.zip items⟩ else none
  | _ => none

def required {α : Type} (f : Fields) (name : String) (decode : Decoder α) : Option α :=
  (f.present.lookup name).bind decode

/-- A field that an object may leave out or give as `null`. -/
def optional {α : Type} (f : Fields) (name : String) (decode : Decoder α) : Option (Option α) :=
  match f.present.lookup name with
  | some v => v.option? decode
  | none => if f.positional then none else some none

def withDefault {α : Type} (f : Fields) (name : String) (default : α) (decode : Decoder α) :
    Option α :=
  match f.present.lookup name with
  | some v => decode v
  | none => some default

end Fields

/-! ## 3. Values that hold nothing unreadable -/

mutual

/-- Every string and key has a text, every numeral is a number, and no value lies deeper than the
given number of levels. -/
def readable : Nat → Json → Bool
  | _, .null => true
  | _, .bool _ => true
  | _, .number n => n.number?.isSome
  | _, .text s => s.isSome
  | 0, .array _ => false
  | depth + 1, .array items => readableItems depth items
  | 0, .object _ => false
  | depth + 1, .object members => readableMembers depth members

def readableItems : Nat → List Json → Bool
  | _, [] => true
  | depth, item :: items => readable depth item && readableItems depth items

def readableMembers : Nat → List (Option String × Json) → Bool
  | _, [] => true
  | depth, (key, value) :: members =>
    key.isSome && readable depth value && readableMembers depth members

end

/-- How deep arrays and objects may be nested in a value that is taken in as a whole. -/
def mostDepth : Nat := 127

end Json

end DiceCup

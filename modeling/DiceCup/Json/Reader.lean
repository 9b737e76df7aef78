import DiceCup.Json.Basic
import DiceCup.Text.Words

/-!
# Reading JSON — the grammar of RFC 8259

`Json.parse?` accepts exactly the texts of the grammar: one value, with blanks around it and nothing
else.  The readers take their value off the front of the text.  Nested values are read on a count of
steps; every step but a list's first takes a character, so twice the length of the text is enough.
-/

namespace DiceCup

namespace Json

open Text

def isSpace (c : Char) : Bool := c = ' ' || c = '\n' || c = '\t' || c = '\r'

def skipSpace (cs : List Char) : List Char := cs.dropWhile isSpace

/-! ## 1. Numerals -/

def readDigits : Reader (List Char) := fun cs =>
  let digits := cs.takeWhile Char.isDigit
  if digits = [] then none else some (digits, cs.dropWhile Char.isDigit)

def readWhole : Reader Nat := fun cs =>
  match readDigits cs with
  | some ('0' :: _ :: _, _) => none
  | some (digits, rest) => some (digitsValue digits, rest)
  | none => none

def readFraction : Reader (List Char)
  | '.' :: cs => readDigits cs
  | cs => some ([], cs)

def readSign : List Char → Int × List Char
  | '+' :: cs => (1, cs)
  | '-' :: cs => (-1, cs)
  | cs => (1, cs)

def readPower : Reader (Option Int) := fun cs =>
  let (sign, cs) := readSign cs
  (readDigits cs).map fun (digits, rest) => (some (sign * digitsValue digits), rest)

def readExponent : Reader (Option Int)
  | 'e' :: cs => readPower cs
  | 'E' :: cs => readPower cs
  | cs => some (none, cs)

def readUnsigned (negative : Bool) : Reader Numeral := fun cs => do
  let (whole, cs) ← readWhole cs
  let (fraction, cs) ← readFraction cs
  let (exponent, cs) ← readExponent cs
  return (⟨negative, whole, fraction, exponent⟩, cs)

def readNumeral : Reader Numeral
  | '-' :: cs => readUnsigned true cs
  | cs => readUnsigned false cs

/-! ## 2. Strings -/

def hexValue? (c : Char) : Option Nat :=
  if c.isDigit then some (c.toNat - '0'.toNat)
  else if 'a' ≤ c && c ≤ 'f' then some (c.toNat - 'a'.toNat + 10)
  else if 'A' ≤ c && c ≤ 'F' then some (c.toNat - 'A'.toNat + 10)
  else none

def readUnit : Reader Nat
  | a :: b :: c :: d :: rest => do
    let a ← hexValue? a
    let b ← hexValue? b
    let c ← hexValue? c
    let d ← hexValue? d
    return (((a * 16 + b) * 16 + c) * 16 + d, rest)
  | _ => none

def escaped? : Char → Option Char
  | '"' => some '"'
  | '\\' => some '\\'
  | '/' => some '/'
  | 'b' => some '\x08'
  | 'f' => some '\x0c'
  | 'n' => some '\n'
  | 'r' => some '\r'
  | 't' => some '\t'
  | _ => none

inductive Piece where
  | char (c : Char)
  | unit (u : Nat)
deriving DecidableEq, Repr

/-- Takes one piece off a string; `none` inside for its closing quote. -/
def readPiece : Reader (Option Piece)
  | '"' :: cs => some (none, cs)
  | '\\' :: 'u' :: cs => (readUnit cs).map fun (u, rest) => (some (.unit u), rest)
  | '\\' :: c :: cs => (escaped? c).map fun c => (some (.char c), cs)
  | c :: cs => if c.toNat < 0x20 || c = '\\' then none else some (some (.char c), cs)
  | [] => none

def readPieces : Nat → List Piece → Reader (List Piece)
  | 0, _, _ => none
  | fuel + 1, done, cs =>
    match readPiece cs with
    | none => none
    | some (none, rest) => some (done.reverse, rest)
    | some (some piece, rest) => readPieces fuel (piece :: done) rest

def isLeading (u : Nat) : Bool := 0xD800 ≤ u && u < 0xDC00

def isTrailing (u : Nat) : Bool := 0xDC00 ≤ u && u < 0xE000

/-- The characters that pieces stand for: a leading and a trailing surrogate make one, and a
surrogate by itself makes none. -/
def joinPieces (done : List Char) : List Piece → Option (List Char)
  | [] => some done.reverse
  | .char c :: ps => joinPieces (c :: done) ps
  | .unit u :: ps =>
    if isTrailing u then none
    else if isLeading u then
      match ps with
      | .unit v :: ps =>
        if isTrailing v then
          joinPieces (Char.ofNat (0x10000 + (u - 0xD800) * 0x400 + (v - 0xDC00)) :: done) ps
        else none
      | _ => none
    else joinPieces (Char.ofNat u :: done) ps

def readString : Reader (Option String) := fun cs =>
  (readPieces (cs.length + 1) [] cs).map fun (pieces, rest) =>
    ((joinPieces [] pieces).map String.ofList, rest)

/-! ## 3. Values -/

def constants : List (String × Json) :=
  [("null", .null), ("true", .bool true), ("false", .bool false)]

def readKey : Reader (Option String) := fun cs =>
  match skipSpace cs with
  | '"' :: cs => do
    let (key, cs) ← readString cs
    let cs ← stripLead [':'] (skipSpace cs)
    return (key, cs)
  | _ => none

mutual

def readValue : Nat → Reader Json
  | 0, _ => none
  | fuel + 1, cs =>
    match skipSpace cs with
    | '"' :: cs => (readString cs).map fun (s, rest) => (.text s, rest)
    | '[' :: cs =>
      match skipSpace cs with
      | ']' :: rest => some (.array [], rest)
      | cs => (readItems fuel cs).map fun (items, rest) => (.array items, rest)
    | '\x7b' :: cs =>
      match skipSpace cs with
      | '\x7d' :: rest => some (.object [], rest)
      | cs => (readMembers fuel cs).map fun (members, rest) => (.object members, rest)
    | cs =>
      match readWord constants cs with
      | some found => some found
      | none => (readNumeral cs).map fun (n, rest) => (.number n, rest)

def readItems : Nat → Reader (List Json)
  | 0, _ => none
  | fuel + 1, cs =>
    match readValue fuel cs with
    | none => none
    | some (item, cs) =>
      match skipSpace cs with
      | ']' :: rest => some ([item], rest)
      | ',' :: cs => (readItems fuel cs).map fun (items, rest) => (item :: items, rest)
      | _ => none

def readMembers : Nat → Reader (List (Option String × Json))
  | 0, _ => none
  | fuel + 1, cs =>
    match readKey cs with
    | none => none
    | some (key, cs) =>
      match readValue fuel cs with
      | none => none
      | some (value, cs) =>
        match skipSpace cs with
        | '\x7d' :: rest => some ([(key, value)], rest)
        | ',' :: cs =>
          (readMembers fuel cs).map fun (members, rest) => ((key, value) :: members, rest)
        | _ => none

end

def parse? (s : String) : Option Json :=
  let cs := s.toList
  match readValue (2 * cs.length + 2) cs with
  | some (value, rest) => if skipSpace rest = [] then some value else none
  | none => none

end Json

end DiceCup

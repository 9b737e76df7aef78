import DiceCup.Json.Basic

/-!
# Writing JSON — one line, or indented

`Json.compact` writes a value on one line without blanks, `Json.pretty` on many lines with two
blanks for each level.  Both escape a string in the same way: a quote, a backslash and the controls
below U+0020, and nothing else.
-/

namespace DiceCup

namespace Json

open Text

/-! ## 1. Strings -/

def escapeLetter? : Char → Option Char
  | '"' => some '"'
  | '\\' => some '\\'
  | '\x08' => some 'b'
  | '\x0c' => some 'f'
  | '\n' => some 'n'
  | '\r' => some 'r'
  | '\t' => some 't'
  | _ => none

def hexDigit (n : Nat) : Char := Nat.digitChar (n % 16)

def escapeUnit (u : Nat) : List Char :=
  ['\\', 'u', hexDigit (u / 0x1000), hexDigit (u / 0x100), hexDigit (u / 0x10), hexDigit u]

def escapeChar (c : Char) : List Char :=
  match escapeLetter? c with
  | some letter => ['\\', letter]
  | none => if c.toNat < 0x20 then escapeUnit c.toNat else [c]

def writeString (s : String) : List Char := '"' :: s.toList.flatMap escapeChar ++ ['"']

/-- A string or key; one without a text is written with a replacement character in its place. -/
def writeText (s : Option String) : List Char := writeString (s.getD "\ufffd")

/-! ## 2. Numerals -/

def writeNumeral (n : Numeral) : List Char :=
  (if n.negative then ['-'] else []) ++ toDigits n.whole ++
    (if n.fraction = [] then [] else '.' :: n.fraction) ++
    (match n.exponent with
      | none => []
      | some e => 'e' :: intDigits e)

/-! ## 3. Values -/

def separated (separator : List Char) (parts : List (List Char)) : List Char :=
  (parts.intersperse separator).flatten

def writeScalar : Json → List Char
  | .null => "null".toList
  | .bool true => "true".toList
  | .bool false => "false".toList
  | .number n => writeNumeral n
  | .text s => writeText s
  | .array _ => []
  | .object _ => []

mutual

def writeCompact : Json → List Char
  | .array items => '[' :: separated [','] (writeCompactItems items) ++ [']']
  | .object members => '\x7b' :: separated [','] (writeCompactMembers members) ++ ['\x7d']
  | scalar => writeScalar scalar

def writeCompactItems : List Json → List (List Char)
  | [] => []
  | item :: items => writeCompact item :: writeCompactItems items

def writeCompactMembers : List (Option String × Json) → List (List Char)
  | [] => []
  | (key, value) :: members =>
    (writeText key ++ ':' :: writeCompact value) :: writeCompactMembers members

end

def newLine (level : Nat) : List Char := '\n' :: List.replicate (2 * level) ' '

/-- Parts on lines of their own between two brackets; without parts the brackets stand together. -/
def block (opening closing : Char) (level : Nat) (parts : List (List Char)) : List Char :=
  if parts = [] then [opening, closing]
  else opening :: newLine (level + 1) ++ separated (',' :: newLine (level + 1)) parts ++
    newLine level ++ [closing]

mutual

def writePretty (level : Nat) : Json → List Char
  | .array items => block '[' ']' level (writePrettyItems (level + 1) items)
  | .object members => block '\x7b' '\x7d' level (writePrettyMembers (level + 1) members)
  | scalar => writeScalar scalar

def writePrettyItems (level : Nat) : List Json → List (List Char)
  | [] => []
  | item :: items => writePretty level item :: writePrettyItems level items

def writePrettyMembers (level : Nat) : List (Option String × Json) → List (List Char)
  | [] => []
  | (key, value) :: members =>
    (writeText key ++ ':' :: ' ' :: writePretty level value) :: writePrettyMembers level members

end

def compact (v : Json) : String := String.ofList (writeCompact v)

def pretty (v : Json) : String := String.ofList (writePretty 0 v)

end Json

end DiceCup

import DiceCup.Json.Reader
import DiceCup.Json.Writer
import DiceCup.Record.Pool
import DiceCup.Settings.Basic

/-!
# Settings as JSON — saving and loading

Settings are saved as an indented object with all fields in order.  In a text to load, every field
may be left out; what it says is checked afterwards.
-/

namespace DiceCup

inductive Failure where
  /-- A text is not JSON or does not fit the type to be read. -/
  | malformed
  | noSuchFile
  | roll (cause : RollError)
deriving DecidableEq, Repr

def Failure.message : Failure → String
  | .malformed => "the text does not describe settings"
  | .noSuchFile => "No such file or directory (os error 2)"
  | .roll cause => cause.message

namespace Interval

def toJson (i : Interval) : Json := .ofNat i.rolls.toNat

def ofJson? : Json.Decoder Interval := fun v => v.uint32?.bind Interval.ofRolls?

end Interval

namespace Settings

def toJson (s : Settings) : Json :=
  .ofFields [("technique", s.technique.toJson),
    ("reseed_interval", .ofOption Interval.toJson s.interval),
    ("ability_score_array_size", .ofNat s.arraySize.toNat),
    ("ability_score_sides", .ofNat s.sides.toNat),
    ("ability_score_dice_rolled", .ofNat s.diceRolled.toNat),
    ("ability_score_dice_kept", .ofNat s.diceKept.toNat),
    ("die_foreground_color", .ofString s.foreground),
    ("die_background_color", .ofString s.background)]

def fieldNames : List String :=
  ["technique", "reseed_interval", "ability_score_array_size", "ability_score_sides",
   "ability_score_dice_rolled", "ability_score_dice_kept", "die_foreground_color",
   "die_background_color"]

/-- The settings that a JSON value describes, not yet checked; `d` says what it leaves out. -/
def ofJson? (d : Settings) : Json.Decoder Settings := fun v => do
  let f ← Json.Fields.ofJson? fieldNames v
  let technique ← f.withDefault "technique" d.technique Technique.ofJson?
  let interval ← f.withDefault "reseed_interval" d.interval (Json.option? Interval.ofJson?)
  let arraySize ← f.withDefault "ability_score_array_size" d.arraySize Json.uint32?
  let sides ← f.withDefault "ability_score_sides" d.sides Json.uint32?
  let diceRolled ← f.withDefault "ability_score_dice_rolled" d.diceRolled Json.uint32?
  let diceKept ← f.withDefault "ability_score_dice_kept" d.diceKept Json.uint32?
  let foreground ← f.withDefault "die_foreground_color" d.foreground Json.string?
  let background ← f.withDefault "die_background_color" d.background Json.string?
  return { technique, interval, arraySize, sides, diceRolled, diceKept, foreground, background }

def save (s : Settings) : String := s.toJson.pretty

def load (text : String) : Except Failure Settings :=
  match (Json.parse? text).bind (ofJson? {}) with
  | none => .error .malformed
  | some s =>
    match s.validate with
    | .ok () => .ok s
    | .error e => .error (.roll e)

theorem load_eq (text : String) : load text =
    ((Json.parse? text).bind (ofJson? {})).elim (.error .malformed) fun s =>
      (s.validate.mapError Failure.roll).map fun () => s := by
  -- For any check, as unfolding this one would compare unknown numbers with large ones.
  have hany (check : Settings → Except RollError Unit) (read : Option Settings) :
      (match read with
        | none => .error .malformed
        | some s =>
          match check s with
          | .ok () => .ok s
          | .error e => .error (.roll e)) =
        read.elim (.error .malformed) fun s =>
          ((check s).mapError Failure.roll).map fun () => s := by
    cases read with
    | none => rfl
    | some s =>
      rw [Option.elim_some]
      dsimp only
      cases check s <;> rfl
  exact hany validate _

theorem load_of_read {text : String} {s : Settings}
    (hread : (Json.parse? text).bind (ofJson? {}) = some s) :
    load text = (s.validate.mapError Failure.roll).map fun () => s := by
  rw [load_eq, hread, Option.elim_some]

/-- Loaded settings are those that a text describes, if they pass the check. -/
theorem load_eq_ok {text : String} {s : Settings} : load text = .ok s ↔
    (Json.parse? text).bind (ofJson? {}) = some s ∧ s.validate = .ok () := by
  rw [load_eq]
  generalize (Json.parse? text).bind (ofJson? {}) = read
  cases read with
  | none => exact ⟨fun h => (nomatch h), fun h => (nomatch h.1)⟩
  | some t =>
    have hmap {checked : Except RollError Unit} :
        ((checked.mapError Failure.roll).map fun () => t) = .ok s ↔ t = s ∧ checked = .ok () := by
      cases checked with
      | error e => exact ⟨fun h => (nomatch h), fun h => (nomatch h.2)⟩
      | ok u => exact ⟨fun h => ⟨Except.ok.inj h, rfl⟩, fun h => congrArg Except.ok h.1⟩
    rw [Option.elim_some, hmap, Option.some.injEq]
    exact and_congr_right fun h => by rw [h]

def loadFile (files : String → Option String) (path : String) : Except Failure Settings :=
  match files path with
  | none => .error .noSuchFile
  | some text => load text

end Settings

end DiceCup

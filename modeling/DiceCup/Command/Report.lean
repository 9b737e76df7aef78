import DiceCup.Command.Invocation
import DiceCup.Record.Pool
import DiceCup.Record.Settings
import DiceCup.Session

/-!
# Reports — what a command line comes to

`Invocation.run` is a function of the invocation, of the texts of the files and of the entropy.  A
command either gives a whole report or fails and reports nothing.
-/

namespace DiceCup

/-- What a command prints, and the file that it saves with the text to be saved. -/
structure Report where
  output : String := ""
  saved : Option (String × String) := none
deriving DecidableEq, Repr

namespace Session

/-- Calls an identifier a number of times, up to the first call that fails, and appends the outcomes
to those already there, the latest of which comes first. -/
def callLoop (identifier : String) (options : RollOptions) :
    Nat → List Outcome → Session → Except RollError (List Outcome)
  | 0, done, _ => .ok done.reverse
  | n + 1, done, session =>
    match session.call identifier options with
    | (.ok outcome, session) => callLoop identifier options n (outcome :: done) session
    | (.error e, _) => .error e

def callTimes (session : Session) (n : Nat) (identifier : String) (options : RollOptions) :
    Except RollError (List Outcome) :=
  callLoop identifier options n [] session

end Session

namespace Report

def lines (texts : List String) : String := String.join (texts.map (· ++ "\n"))

def ofOutcomes (json : Bool) (outcomes : List Outcome) : Report where
  output :=
    if json then lines [(Json.array (outcomes.map Outcome.toJson)).pretty]
    else lines (outcomes.map Outcome.text)

def totalsText (totals : List Int32) : String :=
  "[" ++ String.intercalate ", " (totals.map fun t => Text.intText t.toInt) ++ "]"

def ofScores (json : Bool) (scores : List Pool) : Report where
  output :=
    if json then lines [(Json.array (scores.map Pool.toJson)).pretty]
    else lines (scores.map Pool.text ++ ["Totals: " ++ totalsText (scores.map Pool.total)])

def ofSettings (s : Settings) : Option String → Report
  | none => { output := lines [s.save] }
  | some path => { saved := some (path, s.save) }

end Report

namespace Command

def callRollOptions (s : Settings) (bonus damageType : Option String) :
    Except RollError RollOptions := do
  let options ← match bonus with
    | some bonus => s.rollOptions.withBonus (.text bonus)
    | none => .ok s.rollOptions
  return match damageType with
    | some damageType => options.withDamageType damageType
    | none => options

def run (s : Settings) (cup : Cup) (json : Bool) : Command → Except RollError Report
  | .call identifier bonus damageType repeats => do
    let options ← callRollOptions s bonus damageType
    let outcomes ← Session.callTimes ⟨{}, cup⟩ repeats identifier options
    return .ofOutcomes json outcomes
  | .abilities request => do
    let scores ← ((request.rollArray s s.rollOptions).runOn cup).1
    return .ofScores json scores
  | .settings saveTo => .ok (.ofSettings s saveTo)

end Command

namespace Invocation

def loadSettings (i : Invocation) (files : String → Option String) : Except Failure Settings :=
  match i.settingsFile with
  | none => .ok {}
  | some path => Settings.loadFile files path

/-- The technique of the command line comes before that of the settings. -/
def effectiveSettings (i : Invocation) (s : Settings) : Settings :=
  { s with technique := i.technique.getD s.technique }

def cup (i : Invocation) (s : Settings) (entropy : Random.Entropy) : Cup :=
  let new := match i.seed with
    | some seed => Cup.ofSeed seed entropy
    | none => Cup.fresh entropy
  new.applySettings s

def run (i : Invocation) (files : String → Option String) (entropy : Random.Entropy) :
    Except Failure Report := do
  let loaded ← i.loadSettings files
  let s := i.effectiveSettings loaded
  (i.command.run s (i.cup s entropy) i.json).mapError .roll

end Invocation

end DiceCup

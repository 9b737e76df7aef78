import DiceCup.Settings.Basic

/-!
# Histories — what is asked of a cup, and what happens in it

A history lists each request with the cup that met it.  From that follow the reply, the cup
afterwards, and the events: which stream showed which value, and which generators were started anew.
The draws of a stream are those since its generator was last started.
-/

namespace DiceCup

namespace Cup

/-! ## 1. Requests -/

inductive Request where
  | roll (sides : UInt32) (technique : Option Technique)
  | reseed (options : ReseedOptions)
  | technique (t : Technique)
  | interval (i : Option Interval)
  | settings (s : Settings)

inductive Reply where
  | rolled (result : Except RollError UInt32)
  | displaced (seeds : Option DisplacedSeeds)
  | done

def answer (cup : Cup) : Request → Reply × Cup
  | .roll sides technique =>
    let (result, cup) := (Cup.roll sides technique).runOn cup
    (.rolled result, cup)
  | .reseed options =>
    let (seeds, cup) := cup.reseed options
    (.displaced seeds, cup)
  | .technique technique => (.done, { cup with technique })
  | .interval interval => (.done, { cup with interval })
  | .settings s => (.done, cup.applySettings s)

inductive Origin where
  | fresh
  | seed (seed : UInt64)
  | settings (s : Settings)

def Origin.cup (origin : Origin) (entropy : Random.Entropy) : Cup :=
  match origin with
  | .fresh => .fresh entropy
  | .seed start => .ofSeed start entropy
  | .settings s => .ofSettings s entropy

def after (cup : Cup) (requests : List Request) : Cup :=
  requests.foldl (fun cup request => (cup.answer request).2) cup

theorem after_cons (cup : Cup) (request : Request) (requests : List Request) :
    cup.after (request :: requests) = (cup.answer request).2.after requests := rfl

structure Step where
  before : Cup
  request : Request

namespace Step

def reply (step : Step) : Reply := (step.before.answer step.request).1

def after (step : Step) : Cup := (step.before.answer step.request).2

end Step

def history (cup : Cup) : List Request → List Step
  | [] => []
  | request :: requests => ⟨cup, request⟩ :: (cup.answer request).2.history requests

def replies (cup : Cup) (requests : List Request) : List Reply :=
  (cup.history requests).map Step.reply

def rolls (t : Technique) (sides : List UInt32) : List Request :=
  sides.map fun n => .roll n (some t)

/-! ## 2. Events -/

inductive Event where
  | drawn (stream : Stream) (sides value : UInt32)
  | started (stream : Stream)
deriving DecidableEq, Repr

def Event.stream : Event → Stream
  | .drawn stream _ _ => stream
  | .started stream => stream

def streamOf? : Technique → Option Stream
  | .secure => some .entropy
  | .seededGlobal => some .global
  | .seededInstance => some .ownInstance
  | .randomEachCall => none

def seededStreams : Technique → List Stream
  | .secure => []
  | .seededGlobal => [.global]
  | .seededInstance => [.ownInstance]
  | .randomEachCall => [.global, .ownInstance]

/-- The next roll brings the count of rolls to the interval. -/
def reseedsNext (cup : Cup) : Bool := ({ cup with rolled := cup.rolled + 1 } : Cup).isDue

def Step.events (step : Step) : List Event :=
  match step.request, step.reply with
  | .roll sides technique, .rolled (.ok value) =>
    let stream := (step.before.chooseStream (technique.getD step.before.technique)).1
    let reseeded := if step.before.reseedsNext then seededStreams step.before.technique else []
    .drawn stream sides value :: reseeded.map .started
  | .reseed options, _ =>
    (seededStreams (options.technique.getD step.before.technique)).map .started
  | _, _ => []

def events (cup : Cup) (requests : List Request) : List Event :=
  (cup.history requests).flatMap Step.events

/-! ## 3. Draws -/

structure Draw where
  sides : UInt32
  value : UInt32
deriving DecidableEq, Repr

/-- The draws of a stream after an event: one more, or none after a start. -/
def noteDraw (stream : Stream) (draws : List Draw) : Event → List Draw
  | .drawn s sides value => if s = stream then draws ++ [⟨sides, value⟩] else draws
  | .started s => if s = stream then [] else draws

/-- What was drawn from a stream since its generator was last started. -/
def draws (stream : Stream) (events : List Event) : List Draw := events.foldl (noteDraw stream) []

end Cup

end DiceCup

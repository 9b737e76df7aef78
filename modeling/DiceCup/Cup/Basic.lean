import DiceCup.Random.Face
import DiceCup.Technique

/-!
# The cup — what dice are shaken in

A cup holds two seeded generators, the technique of rolls that name none, and a count of rolls since
the last reseed, at which an interval lets it reseed by itself.  The instance generator comes into
being when it is first needed.  The entropy that the cup has not used yet is part of it, so every
operation is a function of the cup.
-/

namespace DiceCup

open DiceCup.Random

structure Interval where
  rolls : UInt32
  rolls_ne_zero : rolls ≠ 0
deriving DecidableEq, Repr

def Interval.ofRolls? (rolls : UInt32) : Option Interval :=
  if h : rolls ≠ 0 then some ⟨rolls, h⟩ else none

structure Cup where
  technique : Technique
  interval : Option Interval
  /-- The rolls since the last reseed. -/
  rolled : UInt32
  globalGenerator : Generator
  instanceGenerator : Option Generator
  entropy : Entropy

/-- What a reseed is to do; the technique of the cup where none is named, random seeds where none
are given. -/
structure ReseedOptions where
  technique : Option Technique := none
  globalSeed : Option UInt64 := none
  instanceSeed : Option UInt64 := none
deriving DecidableEq, Repr

/-- The seeds that were in effect before a reseed, of the generators that it started anew. -/
structure DisplacedSeeds where
  globalSeed : Option UInt64 := none
  instanceSeed : Option UInt64 := none
deriving DecidableEq, Repr

namespace Cup

/-! ## 1. New cups -/

def fresh (entropy : Entropy) : Cup :=
  let (seed, entropy) := entropy.seed
  { technique := .standard, interval := none, rolled := 0,
    globalGenerator := .ofSeed seed, instanceGenerator := none, entropy }

def ofSeed (seed : UInt64) (entropy : Entropy) : Cup :=
  { technique := .standard, interval := none, rolled := 0,
    globalGenerator := .ofSeed seed, instanceGenerator := some (.ofSeed seed), entropy }

def globalSeed (cup : Cup) : UInt64 := cup.globalGenerator.seed

def instanceSeed (cup : Cup) : Option UInt64 := cup.instanceGenerator.map Generator.seed

/-! ## 2. Reseeding -/

def startGenerator (seed : Option UInt64) (cup : Cup) : Generator × Cup :=
  match seed with
  | some seed => (.ofSeed seed, cup)
  | none =>
    let (seed, entropy) := cup.entropy.seed
    (.ofSeed seed, { cup with entropy })

def reseedGlobal (seed : Option UInt64) (cup : Cup) : UInt64 × Cup :=
  let (generator, next) := cup.startGenerator seed
  (cup.globalSeed, { next with globalGenerator := generator })

def reseedInstance (seed : Option UInt64) (cup : Cup) : Option UInt64 × Cup :=
  let (generator, next) := cup.startGenerator seed
  (cup.instanceSeed, { next with instanceGenerator := some generator })

/-- Sets the count of rolls back and starts the generators of the technique anew.  The secure
technique has none and reports nothing. -/
def reseed (options : ReseedOptions) (cup : Cup) : Option DisplacedSeeds × Cup :=
  let cup := { cup with rolled := 0 }
  match options.technique.getD cup.technique with
  | .secure => (none, cup)
  | .seededGlobal =>
    let (globalSeed, cup) := cup.reseedGlobal options.globalSeed
    (some { globalSeed := some globalSeed }, cup)
  | .seededInstance =>
    let (instanceSeed, cup) := cup.reseedInstance options.instanceSeed
    (some { instanceSeed }, cup)
  | .randomEachCall =>
    let (globalSeed, cup) := cup.reseedGlobal options.globalSeed
    let (instanceSeed, cup) := cup.reseedInstance options.instanceSeed
    (some { globalSeed := some globalSeed, instanceSeed }, cup)

/-! ## 3. Drawing -/

inductive Stream where
  | entropy
  | global
  | ownInstance
deriving DecidableEq, Repr

/-- The stream of a technique; a fair choice of three where the technique leaves it open. -/
def chooseStream (cup : Cup) : Technique → Stream × Cup
  | .secure => (.entropy, cup)
  | .seededGlobal => (.global, cup)
  | .seededInstance => (.ownInstance, cup)
  | .randomEachCall =>
    let (choice, entropy) := drawFace 3 cup.entropy
    let stream := if choice = 1 then .entropy else if choice = 2 then .global else .ownInstance
    (stream, { cup with entropy })

/-- The instance generator, started from a random seed if there is none yet. -/
def haveInstance (cup : Cup) : Generator × Cup :=
  match cup.instanceGenerator with
  | some generator => (generator, cup)
  | none => cup.startGenerator none

def drawFrom (sides : UInt32) (cup : Cup) : Stream → UInt32 × Cup
  | .entropy =>
    let (value, entropy) := drawFace sides cup.entropy
    (value, { cup with entropy })
  | .global =>
    let (value, generator) := drawFace sides cup.globalGenerator
    (value, { cup with globalGenerator := generator })
  | .ownInstance =>
    let (generator, cup) := cup.haveInstance
    let (value, generator) := drawFace sides generator
    (value, { cup with instanceGenerator := some generator })

def draw (sides : UInt32) (technique : Technique) (cup : Cup) : UInt32 × Cup :=
  let (stream, cup) := cup.chooseStream technique
  cup.drawFrom sides stream

def isDue (cup : Cup) : Bool :=
  match cup.interval with
  | some interval => interval.rolls ≤ cup.rolled
  | none => false

/-- Counts a roll, and reseeds the cup's own technique when that is due. -/
def countRoll (cup : Cup) : Cup :=
  let cup := { cup with rolled := cup.rolled + 1 }
  if cup.isDue then (cup.reseed {}).2 else cup

end Cup

end DiceCup

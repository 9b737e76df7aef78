/-!
# Keystream — words from a seed

A seed of 64 bits is spread over a key of eight words; key, block number and constants fill a state
of four rows of four words, and six double rounds of quarter rounds turn it into the sixteen words
of the block.  `word seed n` is the `n`-th word of the blocks in order.
-/

namespace DiceCup.Random

structure Row where
  a : UInt32
  b : UInt32
  c : UInt32
  d : UInt32
deriving DecidableEq, Repr

namespace Row

def zip (op : UInt32 → UInt32 → UInt32) (x y : Row) : Row :=
  ⟨op x.a y.a, op x.b y.b, op x.c y.c, op x.d y.d⟩

def add (x y : Row) : Row := zip (· + ·) x y

def rotateBits (x : UInt32) (amount : UInt32) : UInt32 := (x <<< amount) ||| (x >>> (32 - amount))

def mix (amount : UInt32) (x y : Row) : Row := zip (fun u v => rotateBits (u ^^^ v) amount) x y

def turn (x : Row) : Row := ⟨x.b, x.c, x.d, x.a⟩

def toList (x : Row) : List UInt32 := [x.a, x.b, x.c, x.d]

end Row

structure Block where
  constants : Row
  keyLow : Row
  keyHigh : Row
  counter : Row
deriving DecidableEq, Repr

namespace Block

def quarterRounds (s : Block) : Block :=
  let a := s.constants.add s.keyLow
  let d := s.counter.mix 16 a
  let c := s.keyHigh.add d
  let b := s.keyLow.mix 12 c
  let a := a.add b
  let d := d.mix 8 a
  let c := c.add d
  let b := b.mix 7 c
  ⟨a, b, c, d⟩

/-- Turns the rows so that the diagonals stand in columns. -/
def slant (s : Block) : Block :=
  ⟨s.constants, s.keyLow.turn, s.keyHigh.turn.turn, s.counter.turn.turn.turn⟩

def unslant (s : Block) : Block :=
  ⟨s.constants, s.keyLow.turn.turn.turn, s.keyHigh.turn.turn, s.counter.turn⟩

/-- A round on the columns and one on the diagonals. -/
def doubleRound (s : Block) : Block := s.quarterRounds.slant.quarterRounds.unslant

def rounds : Nat → Block → Block
  | 0, s => s
  | n + 1, s => rounds n s.doubleRound

def add (s t : Block) : Block :=
  ⟨s.constants.add t.constants, s.keyLow.add t.keyLow, s.keyHigh.add t.keyHigh,
    s.counter.add t.counter⟩

def toList (s : Block) : List UInt32 :=
  s.constants.toList ++ s.keyLow.toList ++ s.keyHigh.toList ++ s.counter.toList

end Block

structure Key where
  low : Row
  high : Row
deriving DecidableEq, Repr

namespace Key

def step (state : UInt64) : UInt64 := state * 6364136223846793005 + 11634580027462260723

/-- The word that a state gives: its upper bits folded together and rotated to the right. -/
def output (state : UInt64) : UInt32 :=
  let folded := (((state >>> 18) ^^^ state) >>> 27).toUInt32
  let amount := (state >>> 59).toUInt32
  (folded >>> amount) ||| (folded <<< (32 - amount))

def row (state : UInt64) : Row × UInt64 :=
  let s1 := step state
  let s2 := step s1
  let s3 := step s2
  let s4 := step s3
  (⟨output s1, output s2, output s3, output s4⟩, s4)

def ofSeed (seed : UInt64) : Key :=
  let (low, state) := row seed
  let (high, _) := row state
  ⟨low, high⟩

def block (key : Key) (number : UInt64) : Block where
  constants := ⟨0x61707865, 0x3320646e, 0x79622d32, 0x6b206574⟩
  keyLow := key.low
  keyHigh := key.high
  counter := ⟨number.toUInt32, (number >>> 32).toUInt32, 0, 0⟩

end Key

def blockWords (seed number : UInt64) : List UInt32 :=
  let start := (Key.ofSeed seed).block number
  ((start.rounds 6).add start).toList

def word (seed : UInt64) (n : Nat) : UInt32 :=
  (blockWords seed (n / 16).toUInt64).getD (n % 16) 0

end DiceCup.Random

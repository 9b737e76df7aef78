import DiceCup.Random.Keystream

/-!
# Sources — streams of random words

A generator is its seed and the number of words drawn from it, so a seed and the draws since then
tell everything about it.  Entropy is the randomness of the outside world: some stream of words, of
which nothing is known, read in order.
-/

namespace DiceCup.Random

class WordSource (σ : Type) where
  next : σ → UInt32 × σ

structure Generator where
  seed : UInt64
  /-- How many words have been drawn. -/
  drawn : Nat
deriving DecidableEq, Repr

namespace Generator

def ofSeed (seed : UInt64) : Generator := ⟨seed, 0⟩

def next (g : Generator) : UInt32 × Generator :=
  (word g.seed g.drawn, { g with drawn := g.drawn + 1 })

instance : WordSource Generator := ⟨next⟩

end Generator

structure Entropy where
  words : Nat → UInt32
  drawn : Nat

namespace Entropy

def ofWords (words : Nat → UInt32) : Entropy := ⟨words, 0⟩

def next (e : Entropy) : UInt32 × Entropy := (e.words e.drawn, { e with drawn := e.drawn + 1 })

instance : WordSource Entropy := ⟨next⟩

/-- A random seed: two words, the low one first. -/
def seed (e : Entropy) : UInt64 × Entropy :=
  let (low, e) := e.next
  let (high, e) := e.next
  (low.toUInt64 ||| (high.toUInt64 <<< 32), e)

end Entropy

end DiceCup.Random

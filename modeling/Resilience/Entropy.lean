import Resilience.Binary64

/-!
# Random numbers from a stream of words

Random delays take their words from a stream, one word for each number drawn, so that a run is
determined by the stream and the position reached in it.

## Main definitions

* `Entropy` — a stream of 64-bit words and a position
* `Entropy.between` — a number between two bounds
-/

namespace Resilience

/-- A stream of words and the number of words already drawn. -/
structure Entropy where
  words : Nat → UInt64
  drawn : Nat := 0

namespace Entropy

instance : Inhabited Entropy := ⟨{ words := fun _ => 0 }⟩

/-- The next word. -/
def next (entropy : Entropy) : UInt64 × Entropy :=
  (entropy.words entropy.drawn, { entropy with drawn := entropy.drawn + 1 })

/-- The stream that repeats some words, or zero if there are none. -/
def cycle (words : List UInt64) : Entropy where
  words position := words.getD (position % words.length) 0

/-- The fraction in the half-open unit interval that the leading 52 bits of a word give. -/
def fraction (word : UInt64) : Binary64 := Binary64.ofRatio false (word.toNat / 2 ^ 12) (2 ^ 52)

/-- A number between two bounds, from one word. -/
def between (entropy : Entropy) (low high : Binary64) : Binary64 × Entropy :=
  let (word, entropy) := entropy.next
  (fraction word * (high - low) + low, entropy)

end Entropy

end Resilience

import RandomTables.Random.Source

/-!
A source that hands out given words and then zeros, and counts how many words were asked for.
-/

namespace RandomTables

structure Scripted where
  words : List (BitVec 64)
  used : Nat
deriving DecidableEq

namespace Scripted

def ofWords (words : List (BitVec 64)) : Scripted := ⟨words, 0⟩

def next64 (source : Scripted) : BitVec 64 × Scripted :=
  (source.words.headD 0, ⟨source.words.tail, source.used + 1⟩)

/-- The low half of a whole word. -/
def next32 (source : Scripted) : BitVec 32 × Scripted :=
  (source.next64.1.setWidth 32, source.next64.2)

/-- A zero word always counts, so no draw needs more than one word past the end. -/
instance : RandomSource Scripted where
  next32 := next32
  next64 := next64
  patience source := source.words.length + 1

end Scripted

end RandomTables

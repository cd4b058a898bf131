import RandomTables.Random.Source
import RandomTables.Text.Decimal

/-!
The ChaCha stream with twelve rounds, keyed by a seed of 64 bits. Its blocks of sixteen words follow
one another without a gap; a word of 64 bits takes two of them, the low half first.
-/

namespace RandomTables

namespace ChaCha

abbrev Block := Vector UInt32 16

def rotateLeft (word amount : UInt32) : UInt32 :=
  (word <<< amount) ||| (word >>> (32 - amount))

def quarterRound (s : Block) (a b c d : Fin 16) : Block :=
  let s := s.set a (s[a] + s[b])
  let s := s.set d (rotateLeft (s[d] ^^^ s[a]) 16)
  let s := s.set c (s[c] + s[d])
  let s := s.set b (rotateLeft (s[b] ^^^ s[c]) 12)
  let s := s.set a (s[a] + s[b])
  let s := s.set d (rotateLeft (s[d] ^^^ s[a]) 8)
  let s := s.set c (s[c] + s[d])
  s.set b (rotateLeft (s[b] ^^^ s[c]) 7)

def doubleRound (s : Block) : Block :=
  let s := quarterRound s 0 4 8 12
  let s := quarterRound s 1 5 9 13
  let s := quarterRound s 2 6 10 14
  let s := quarterRound s 3 7 11 15
  let s := quarterRound s 0 5 10 15
  let s := quarterRound s 1 6 11 12
  let s := quarterRound s 2 7 8 13
  quarterRound s 3 4 9 14

def initial (key : Vector UInt32 8) (counter : UInt64) : Block :=
  #v[0x61707865, 0x3320646e, 0x79622d32, 0x6b206574,
    key[0], key[1], key[2], key[3], key[4], key[5], key[6], key[7],
    counter.toUInt32, (counter >>> 32).toUInt32, 0, 0]

def block (key : Vector UInt32 8) (counter : UInt64) : Block :=
  let start := initial key counter
  Vector.zipWith (· + ·) (Nat.repeat doubleRound 6 start) start

end ChaCha

/-- `pending` are the words of the last block that are not yet handed out, and `counter` is the
number of the block after it. -/
structure Seeded where
  key : Vector UInt32 8
  counter : UInt64
  pending : List UInt32
deriving DecidableEq

namespace Seeded

/-- One step of the generator that spreads a seed over the key: the word and the next state. -/
def keyStep (state : UInt64) : UInt32 × UInt64 :=
  let state := state * 6364136223846793005 + 11634580027462260723
  let word := (((state >>> 18) ^^^ state) >>> 27).toUInt32
  let turn := (state >>> 59).toUInt32
  ((word >>> turn) ||| (word <<< ((32 - turn) % 32)), state)

def keyWords : Nat → UInt64 → List UInt32
  | 0, _ => []
  | count + 1, state => (keyStep state).1 :: keyWords count (keyStep state).2

theorem length_keyWords (count : Nat) (state : UInt64) : (keyWords count state).length = count := by
  induction count generalizing state with
  | zero => rfl
  | succ count ih => simp [keyWords, ih]

def ofSeed (seed : UInt64) : Seeded where
  key := ⟨(keyWords 8 seed).toArray, by simp [length_keyWords]⟩
  counter := 0
  pending := []

def mostSeed : Nat := 18446744073709551615

def readSeed? (text : String) : Option UInt64 :=
  (Text.natural? mostSeed text.toList).map UInt64.ofNat

def nextWord (source : Seeded) : UInt32 × Seeded :=
  match source.pending with
  | word :: rest => (word, { source with pending := rest })
  | [] =>
      let words := (ChaCha.block source.key source.counter).toList
      (words.headD 0,
        { source with counter := source.counter + 1, pending := words.tail })

def next32 (source : Seeded) : BitVec 32 × Seeded :=
  (source.nextWord.1.toBitVec, source.nextWord.2)

def next64 (source : Seeded) : BitVec 64 × Seeded :=
  let (low, source) := source.nextWord
  let (high, source) := source.nextWord
  (high.toBitVec ++ low.toBitVec, source)

/-- A draw refuses a word with a chance below one half. -/
instance : RandomSource Seeded where
  next32 := next32
  next64 := next64
  patience _ := 65536

end Seeded

end RandomTables

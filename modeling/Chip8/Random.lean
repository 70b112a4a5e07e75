namespace Chip8

/-!
# Random numbers

A key determines an endless stream of 32-bit words: the key stream of the
ChaCha cipher with twelve rounds.  A stream is a key and the number of words
already drawn from it, so the word at each position is a function of the key
alone.  A small generator expands a seed to a key.
-/

namespace ChaCha

/-- Rotate a word to the left. -/
def rotateLeft
    (word amount : UInt32) :
    UInt32 :=
  word <<< amount ||| word >>> (32 - amount)

/-- The sixteen words of the cipher's state. -/
abbrev State := Vector UInt32 16

/-- The eight words of a key. -/
abbrev Key := Vector UInt32 8

/-- Mix four words of the state. -/
def quarterRound
    (state : State)
    (a b c d : Fin 16) :
    State :=
  let wordA := state[a] + state[b]
  let wordD := rotateLeft (state[d] ^^^ wordA) 16
  let wordC := state[c] + wordD
  let wordB := rotateLeft (state[b] ^^^ wordC) 12
  let wordA := wordA + wordB
  let wordD := rotateLeft (wordD ^^^ wordA) 8
  let wordC := wordC + wordD
  let wordB := rotateLeft (wordB ^^^ wordC) 7
  (((state.set a wordA).set b wordB).set c wordC).set d wordD

/-- The state as a square of four rows; columns wrap around. -/
def cell
    (row : Fin 4)
    (column : Nat) :
    Fin 16 :=
  ⟨4 * row.val + column % 4, by omega⟩

/-- Mix a column in which each row is moved on by a shift more than the row above. -/
def mixColumn
    (shift : Nat)
    (state : State)
    (column : Nat) :
    State :=
  quarterRound state
    (cell 0 column)
    (cell 1 (column + shift))
    (cell 2 (column + 2 * shift))
    (cell 3 (column + 3 * shift))

/-- Mix the four columns and then the four diagonals. -/
def doubleRound (state : State) : State :=
  let columns := (List.range 4).foldl (mixColumn 0) state
  (List.range 4).foldl (mixColumn 1) columns

/-- The state before the rounds: constants, key, 64-bit block number, zeros. -/
def initial
    (key : Key)
    (block : UInt64) :
    State :=
  #v[0x61707865, 0x3320646E, 0x79622D32, 0x6B206574,
    key[0], key[1], key[2], key[3], key[4], key[5], key[6], key[7],
    block.toUInt32, (block >>> 32).toUInt32, 0, 0]

/-- One block of sixteen words after twelve rounds. -/
def block
    (key : Key)
    (number : UInt64) :
    State :=
  let start := initial key number
  let mixed := Nat.repeat doubleRound 6 start
  Vector.zipWith (· + ·) mixed start

end ChaCha

/-- A key and the number of words drawn from its stream. -/
structure RandomStream where
  key : ChaCha.Key
  drawn : Nat
  deriving Repr, DecidableEq

namespace RandomStream

/-- The next state of the generator that expands a seed. -/
def expand (state : UInt64) : UInt64 :=
  state * 6364136223846793005 + 11634580027462260723

/-- The word that the expanding generator puts out in a state. -/
def expandedWord (state : UInt64) : UInt32 :=
  let word := (((state >>> 18) ^^^ state) >>> 27).toUInt32
  let amount := (state >>> 59).toUInt32
  word >>> amount ||| word <<< (32 - amount)

/-- The key that a seed expands to. -/
def keyOfSeed (seed : UInt64) : ChaCha.Key :=
  Vector.ofFn fun position => expandedWord (Nat.repeat expand (position.val + 1) seed)

/-- The word at a position of a key's stream. -/
def word
    (key : ChaCha.Key)
    (position : Nat) :
    UInt32 :=
  (ChaCha.block key (UInt64.ofNat (position / 16)))[position % 16]

/-- The stream of a seed, from its start. -/
def ofSeed (seed : UInt64) : RandomStream where
  key :=
    keyOfSeed seed
  drawn :=
    0

/-- Draw one word and keep its low byte. -/
def next (stream : RandomStream) : UInt8 × RandomStream :=
  ((word stream.key stream.drawn).toUInt8, { stream with drawn := stream.drawn + 1 })

end RandomStream

end Chip8

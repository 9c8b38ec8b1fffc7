import JoinTrust.Bytes

set_option autoImplicit false

/-!
The SHA-2 family. One compression scheme serves both word sizes; a `Family` supplies the word size,
the four mixing functions, the round constants and the initial registers.
-/

namespace JoinTrust.Digest

structure Registers (Word : Type) where
  a : Word
  b : Word
  c : Word
  d : Word
  e : Word
  f : Word
  g : Word
  h : Word

structure Family (Word : Type) where
  wordSize : Nat
  /-- The word of a number, modulo the word size. -/
  ofNat : Nat → Word
  toNat : Word → Nat
  mixA : Word → Word
  mixE : Word → Word
  mixEarly : Word → Word
  mixLate : Word → Word
  constants : List Word
  initial : Registers Word

variable {Word : Type} [Add Word] [AndOp Word] [XorOp Word] [Complement Word]

namespace Family

/-- Octets in one block: sixteen words. -/
def blockSize (family : Family Word) : Nat :=
  16 * family.wordSize

/-- A number as `count` octets, most significant first. -/
def bigEndian : Nat → Nat → Bytes
  | 0, _ => []
  | count + 1, value => bigEndian count (value / 256) ++ [UInt8.ofNat (value % 256)]

/-- The number that octets spell, most significant first. -/
def ofBigEndian (bytes : Bytes) : Nat :=
  bytes.foldl (fun value octet => value * 256 + octet.toNat) 0

/-- What follows a message of `length` octets: a single set bit, zeros up to the last two words of a
block, and the length in bits. -/
def padding (family : Family Word) (length : Nat) : Bytes :=
  let field := 2 * family.wordSize
  let used := (length + 1 + field) % family.blockSize
  let zeros := if used = 0 then 0 else family.blockSize - used
  0x80 :: List.replicate zeros 0 ++ bigEndian field (8 * length)

def pieces (size : Nat) : Nat → Bytes → List Bytes
  | 0, _ => []
  | count + 1, bytes => bytes.take size :: pieces size count (bytes.drop size)

def words (family : Family Word) (block : Bytes) : List Word :=
  (pieces family.wordSize 16 block).map fun piece => family.ofNat (ofBigEndian piece)

/-- The message schedule: `count` words, each new one mixed from the sixteen before it. -/
def schedule (family : Family Word) : Nat → List Word → List Word
  | 0, _ => []
  | count + 1, window =>
    let zero := family.ofNat 0
    let next := family.mixLate (window.getD 14 zero) + window.getD 9 zero +
      family.mixEarly (window.getD 1 zero) + window.getD 0 zero
    window.getD 0 zero :: schedule family count (window.drop 1 ++ [next])

def round (family : Family Word) (r : Registers Word) (input : Word) : Registers Word :=
  let choice := (r.e &&& r.f) ^^^ (~~~r.e &&& r.g)
  let majority := (r.a &&& r.b) ^^^ (r.a &&& r.c) ^^^ (r.b &&& r.c)
  let first := r.h + family.mixE r.e + choice + input
  let second := family.mixA r.a + majority
  ⟨first + second, r.a, r.b, r.c, r.d + first, r.e, r.f, r.g⟩

def compress (family : Family Word) (r : Registers Word) (block : Bytes) : Registers Word :=
  let inputs := List.zipWith (· + ·) family.constants
    (family.schedule family.constants.length (family.words block))
  let s := inputs.foldl family.round r
  ⟨r.a + s.a, r.b + s.b, r.c + s.c, r.d + s.d, r.e + s.e, r.f + s.f, r.g + s.g, r.h + s.h⟩

def hash (family : Family Word) (message : Bytes) : Bytes :=
  let padded := message ++ family.padding message.length
  let blocks := pieces family.blockSize (padded.length / family.blockSize) padded
  let r := blocks.foldl family.compress family.initial
  [r.a, r.b, r.c, r.d, r.e, r.f, r.g, r.h].flatMap fun word =>
    bigEndian family.wordSize (family.toNat word)

end Family

end JoinTrust.Digest

import FloatLogic.VarSet

/-!
# Digests

A digest is a 64-bit word computed from the structure of a value: equal values
have equal digests.  Words are mixed one at a time into a seed, so the digest of
a node is determined by its kind and the digests of its parts in order.  How the
leaves are hashed is a parameter; nothing but the speed of comparisons hangs on
it.
-/

namespace FloatLogic

namespace Digest

/-- Mix one word into a seed. -/
def mix (seed word : UInt64) : UInt64 :=
  seed ^^^ (word + (0x9e3779b97f4a7c15 : UInt64) + (seed <<< (6 : UInt64)) +
    (seed >>> (2 : UInt64)))

/-- Mix words into a seed from first to last. -/
def mixAll (seed : UInt64) (words : List UInt64) : UInt64 := words.foldl mix seed

/-- Spread a word over all 64 bits. -/
def scramble (word : UInt64) : UInt64 :=
  let high := (word ^^^ (word >>> (30 : UInt64))) * (0xbf58476d1ce4e5b9 : UInt64)
  let low := (high ^^^ (high >>> (27 : UInt64))) * (0x94d049bb133111eb : UInt64)
  low ^^^ (low >>> (31 : UInt64))

/-- The seeds after each of the words. -/
def states (seed : UInt64) : List UInt64 → List UInt64
  | [] => []
  | word :: rest => mix seed word :: states (mix seed word) rest

end Digest

/-- A hash function for what a digest starts from: the index of a node's kind,
the bits of a number, the identity of a variable and the size of a set. -/
structure LeafHash where
  kind : Nat → UInt64
  number : UInt64 → UInt64
  identity : Nat → UInt64
  size : Nat → UInt64

namespace LeafHash

/-- The leaf hash that digests are stored under.  Each sort of leaf has a seed of
its own, and the words are scrambled, since nodes only add and shift them. -/
def stored : LeafHash where
  kind index := Digest.scramble (Digest.mix 0x1d8e4e27c47d124f (UInt64.ofNat index))
  number bits := Digest.scramble (Digest.mix 0xeb44accab455d165 bits)
  identity id := Digest.scramble (Digest.mix 0x8fbd8f2d3c5a6e91 (UInt64.ofNat id))
  size count := Digest.scramble (Digest.mix 0x5851f42d4c957f2d (UInt64.ofNat count))

/-- The digest of a node with the given kind index and parts. -/
def node (leaf : LeafHash) (kind : Nat) (parts : List UInt64) : UInt64 :=
  Digest.mixAll (leaf.kind kind) parts

/-- The digest of a variable. -/
def var (leaf : LeafHash) (v : Variable) : UInt64 := leaf.identity v.id

/-- The digest of a set: its members in order, after its size. -/
def set (leaf : LeafHash) (members : VarSet) : UInt64 :=
  Digest.mixAll (leaf.size members.size) (members.toList.map leaf.var)

end LeafHash

end FloatLogic

/-!
The bytes that the characters of a range are written with in UTF-8.

A range is cut into pieces in which every byte runs through a range of its own, whatever the other
bytes are. The characters of a piece are then all sequences of bytes from its ranges.
-/

namespace HostDns.Unicode

/-- The bytes that a code point is written with. -/
def bytes (n : Nat) : List UInt8 := String.utf8EncodeChar (Char.ofNat n)

/-- The parts of a range in front of the surrogates and behind them. -/
def aroundSurrogates (range : Nat × Nat) : List (Nat × Nat) :=
  let (low, high) := range
  if low < 0xE000 ∧ 0xD7FF < high then
    [(low, 0xD7FF), (0xE000, high)].filter fun (low, high) => low ≤ high
  else [range]

/-- Cuts a range behind a code point. -/
def cutBehind (n : Nat) (range : Nat × Nat) : List (Nat × Nat) :=
  let (low, high) := range
  if low ≤ n ∧ n < high then [(low, n), (n + 1, high)] else [range]

/-- Cuts a range that does not lie in one block into what it covers of its first and of its last block
and the whole blocks between. ASCII is one block. -/
def cutBlocks (block : Nat) (range : Nat × Nat) : List (Nat × Nat) :=
  let (low, high) := range
  if high < 0x80 ∨ low / block = high / block then [range]
  else
    let first := (low + block - 1) / block * block
    let last := (high + 1) / block * block
    [(low, first - 1), (first, last - 1), (last, high)].filter fun (low, high) => low ≤ high

/-- The pieces of a range in ascending order. Characters of a piece are written with the same number of
bytes, and where one of these bytes varies those behind it run through all of their values. -/
def pieces (low high : Nat) : List (Nat × Nat) :=
  (((((((aroundSurrogates (low, high)).flatMap (cutBehind 0x7F)).flatMap (cutBehind 0x7FF)).flatMap
    (cutBehind 0xFFFF)).flatMap (cutBlocks 0x40)).flatMap (cutBlocks 0x1000)).flatMap
    (cutBlocks 0x40000))

/-- The ranges of bytes of every piece of a range. -/
def byteRanges (low high : Nat) : List (List (UInt8 × UInt8)) :=
  (pieces low high).map fun (low, high) => (bytes low).zip (bytes high)

end HostDns.Unicode

/-! # Ranges of characters as ranges of bytes

A range of code points falls into parts whose UTF-8 forms are products of byte ranges: parts of one
length, without surrogates, in which all that follows the first byte that varies takes every value.
`byteRanges` lists those products in ascending order. -/

namespace Tablewright.Unicode

/-- For each place of a byte sequence, the first and the last byte that may stand there. -/
abbrev ByteRanges := List (Nat × Nat)

/-- The bytes of a code point. -/
def utf8Bytes (n : Nat) : List Nat :=
  if n < 0x80 then [n]
  else if n < 0x800 then [0xC0 + n / 0x40, 0x80 + n % 0x40]
  else if n < 0x10000 then [0xE0 + n / 0x1000, 0x80 + n / 0x40 % 0x40, 0x80 + n % 0x40]
  else [0xF0 + n / 0x40000, 0x80 + n / 0x1000 % 0x40, 0x80 + n / 0x40 % 0x40, 0x80 + n % 0x40]

/-- Cut a range into parts that are aligned to blocks, from small blocks to large ones: whatever
reaches beyond a block is cut off at the block's end. -/
def alignedParts (lo hi : Nat) : List Nat → List (Nat × Nat)
  | [] => [(lo, hi)]
  | block :: blocks =>
    if lo / block = hi / block then [(lo, hi)]
    else
      let isRagged := lo % block ≠ 0
      let lo' := if isRagged then (lo / block + 1) * block else lo
      let front := if isRagged then [(lo, lo' - 1)] else []
      if lo' / block = hi / block then front ++ [(lo', hi)]
      else if hi % block = block - 1 then front ++ alignedParts lo' hi blocks
      else
        let hi' := hi / block * block
        front ++ alignedParts lo' (hi' - 1) blocks ++ [(hi', hi)]

/-- The code points of one length: without surrogates there are five such ranges. -/
def lengthRanges : List (Nat × Nat) :=
  [(0, 0x7F), (0x80, 0x7FF), (0x800, 0xD7FF), (0xE000, 0xFFFF), (0x10000, 0x10FFFF)]

/-- The byte sequences of a range of code points. -/
def byteRanges (range : Nat × Nat) : List ByteRanges :=
  lengthRanges.flatMap fun (first, last) =>
    let lo := max range.1 first
    let hi := min range.2 last
    if hi < lo then []
    else
      let parts := if hi < 0x80 then [(lo, hi)] else alignedParts lo hi [0x40, 0x1000, 0x40000]
      parts.map fun (lo, hi) => (utf8Bytes lo).zip (utf8Bytes hi)

end Tablewright.Unicode

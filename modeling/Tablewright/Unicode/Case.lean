import Tablewright.Unicode.CaseTables
import Tablewright.Unicode.Class

/-! # Upper case, lower case and case folding

`toUpper` and `toLower` are the full, context-free mappings (`ß` becomes `SS`, `İ` becomes `i` and a
dot above). `fold` is simple case folding: two characters are the same letter up to case exactly
when they fold to the same character, and `variants` lists all of those. -/

namespace Tablewright.Unicode

/-- The full upper case of a character. -/
def toUpper (c : Char) : List Char :=
  if isAscii c then [c.toUpper]
  else match longUppers.lookup c.toNat with
    | some codes => codes.map Char.ofNat
    | none => [(shifted? upperShifts c).getD c]

/-- The full lower case of a character, wherever it stands in its word. -/
def toLower (c : Char) : List Char :=
  if isAscii c then [c.toLower]
  else if c.toNat == 0x130 then ['i', Char.ofNat 0x307]
  else [(shifted? lowerShifts c).getD c]

/-- Simple case folding. -/
def fold (c : Char) : Char :=
  if isAscii c then c.toLower else (shifted? foldShifts c).getD c

/-- Are two characters the same letter up to case? -/
def sameFold (c d : Char) : Bool :=
  fold c == fold d

/-- All characters with the fold of `c`, `c` among them. -/
def variants (c : Char) : List Char :=
  let target := fold c
  let upper := if target.isLower then [target.toUpper] else []
  target :: upper ++ (foldShifts.filterMap fun s => s.source? target.toNat).map Char.ofNat

/-- The ASCII letters `A` to `Z` in lower case, all else as it is. -/
def asciiLower (s : List Char) : List Char :=
  s.map Char.toLower

end Tablewright.Unicode

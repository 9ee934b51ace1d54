import Tablewright.Pattern.CharSet

/-! # Sets as ranges

The characters of a set, listed: ranges of code points in ascending order with gaps between them. -/

namespace Tablewright.Pattern

/-- Ranges of code points, each with its first and last one. -/
abbrev Ranges := List (Nat × Nat)

namespace Ranges

/-- Put a range in front of ranges that start no earlier, and join those that it reaches. -/
def cover (first last : Nat) : Ranges → Ranges
  | [] => [(first, last)]
  | (a, b) :: rest =>
    if a ≤ last + 1 then cover first (max last b) rest else (first, last) :: (a, b) :: rest

/-- Ranges in any order, put in order and joined. -/
def ordered (ranges : List (Nat × Nat)) : Ranges :=
  (ranges.mergeSort fun a b => a.1 ≤ b.1).foldr (fun r rest => cover r.1 r.2 rest) []

/-- The ranges of two sets together. -/
def union (s t : Ranges) : Ranges :=
  ordered (s ++ t)

/-- A range without the surrogates at its ends. -/
def trimmed (first last : Nat) : Ranges :=
  let first := if 0xD800 ≤ first ∧ first ≤ 0xDFFF then 0xE000 else first
  let last := if 0xD800 ≤ last ∧ last ≤ 0xDFFF then 0xD7FF else last
  if first ≤ last then [(first, last)] else []

/-- The gaps of a set from a code point on. -/
def gaps (first : Nat) : Ranges → Ranges
  | [] => trimmed first 0x10FFFF
  | (a, b) :: rest => (if first < a then trimmed first (a - 1) else []) ++ gaps (b + 1) rest

/-- The characters that a set does not have. -/
def compl (s : Ranges) : Ranges :=
  gaps 0 s

/-- The characters that two sets have in common. -/
def inter (s t : Ranges) : Ranges :=
  compl (union (compl s) (compl t))

/-- Does one of the ranges hold the code point? -/
def contains (s : Ranges) (n : Nat) : Bool :=
  s.any fun r => r.1 ≤ n && n ≤ r.2

/-! ## Properties -/

/-- The ranges of a span. -/
def ofSpan (s : Unicode.Span) : List (Nat × Nat) :=
  if s.step = 1 then [(s.lo, s.hi)]
  else (List.range ((s.hi - s.lo) / s.step + 1)).map fun i => (s.lo + i * s.step, s.lo + i * s.step)

/-- The ranges of a class of characters. -/
def ofClass (k : Unicode.CharClass) : Ranges :=
  let ascii := (List.range 0x80).filter fun n => k.ascii (Char.ofNat n)
  ordered (ascii.map (fun n => (n, n)) ++ (k.tables.flatMap fun table => table.flatMap ofSpan))

/-! ## Cases -/

/-- Each code point that folds to another one, with that other one. -/
def folds : List (Nat × Nat) :=
  (Unicode.Shift.mk ⟨0x41, 0x5A, 1⟩ 0x20 :: Unicode.foldShifts).flatMap fun s =>
    (List.range ((s.span.hi - s.span.lo) / s.span.step + 1)).map fun i =>
      (s.span.lo + i * s.span.step, s.image (s.span.lo + i * s.span.step))

/-- A set with all cases of its characters. -/
def folded (s : Ranges) : Ranges :=
  let point (n : Nat) : Nat × Nat := (n, n)
  let s := union s (folds.filterMap fun f => if s.contains f.1 then some (point f.2) else none)
  union s (folds.filterMap fun f => if s.contains f.2 then some (point f.1) else none)

end Ranges

/-- The ranges of a set. -/
def CharSet.ranges : CharSet → Ranges
  | none => []
  | range first last => .ordered [(first.toNat, last.toNat)]
  | property p => .inter (.ofClass p.charClass) (.compl (.ofClass .latest))
  | compl s => s.ranges.compl
  | union s t => s.ranges.union t.ranges
  | inter s t => s.ranges.inter t.ranges
  | folded s => s.ranges.folded

end Tablewright.Pattern

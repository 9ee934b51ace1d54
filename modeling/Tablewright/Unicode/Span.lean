/-! # Spans of code points

A character property is kept as a list of spans, each an arithmetic progression of code points, and
a one-to-one character mapping as a list of spans with a common offset. -/

namespace Tablewright.Unicode

/-- The code points `lo`, `lo + step`, … up to `hi`. -/
structure Span where
  lo : Nat
  hi : Nat
  step : Nat
  deriving DecidableEq, Inhabited

/-- Does the span hold this code point? -/
def Span.holds (s : Span) (n : Nat) : Bool :=
  s.lo ≤ n && n ≤ s.hi && (n - s.lo) % s.step == 0

/-- Does some span of the table hold the character? -/
def inTable (table : List Span) (c : Char) : Bool :=
  table.any fun s => s.holds c.toNat

/-- A span whose code points all move by the same offset. -/
structure Shift where
  span : Span
  offset : Int
  deriving DecidableEq, Inhabited

/-- The image of a code point under a shift. -/
def Shift.image (s : Shift) (n : Nat) : Nat :=
  (Int.ofNat n + s.offset).toNat

/-- The code point that a shift moves to `n`, if there is one. -/
def Shift.source? (s : Shift) (n : Nat) : Option Nat :=
  let before := (Int.ofNat n - s.offset).toNat
  if s.span.holds before && s.image before == n then some before else none

/-- The image of a character under the first shift of the table that moves it. -/
def shifted? (table : List Shift) (c : Char) : Option Char :=
  (table.find? fun s => s.span.holds c.toNat).map fun s => Char.ofNat (s.image c.toNat)

end Tablewright.Unicode

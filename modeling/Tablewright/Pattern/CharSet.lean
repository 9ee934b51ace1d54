import Tablewright.Unicode.Case

/-! # Character sets

What one position of a pattern may hold. A set is built from ranges and properties; `holds` says
which characters it has. Every operation on sets is pinned down by its `holds` lemma. -/

namespace Tablewright.Pattern

/-- A property that a set can ask for. -/
inductive Property where
  | letter
  | mark
  | decimalDigit
  | numeric
  | alphabetic
  | lowercase
  | uppercase
  | blank
  | word
  | han
  deriving DecidableEq, Inhabited, Hashable

/-- The class of the characters with the property. -/
def Property.charClass : Property → Unicode.CharClass
  | letter => .letter
  | mark => .mark
  | decimalDigit => .decimalDigit
  | numeric => .numeric
  | alphabetic => .alphabetic
  | lowercase => .lowercase
  | uppercase => .uppercase
  | blank => .blank
  | word => .word
  | han => .han

/-- A set of characters. -/
inductive CharSet where
  | none
  | range (first last : Char)
  | property (p : Property)
  | compl (s : CharSet)
  | union (s t : CharSet)
  | inter (s t : CharSet)
  | folded (s : CharSet)
  deriving DecidableEq, Inhabited, Hashable

namespace CharSet

/-- Does the set have the character? A folded set has every case of its characters. -/
def holds : CharSet → Char → Bool
  | none, _ => false
  | range first last, c => first ≤ c && c ≤ last
  | property p, c => p.charClass.settled c
  | compl s, c => !s.holds c
  | union s t, c => s.holds c || t.holds c
  | inter s t, c => s.holds c && t.holds c
  | folded s, c => (Unicode.variants c).any s.holds

/-- The set of one character. -/
def single (c : Char) : CharSet :=
  range c c

/-- The set of the characters of a text. -/
def ofText (text : String) : CharSet :=
  text.toList.foldr (fun c s => union (single c) s) none

/-- The characters of `s` that `t` does not have. -/
def diff (s t : CharSet) : CharSet :=
  inter s (compl t)

/-- The characters that exactly one of two sets has. -/
def symmDiff (s t : CharSet) : CharSet :=
  union (diff s t) (diff t s)

/-- All characters. -/
def any : CharSet :=
  compl none

/-- The characters of ASCII. -/
def ascii : CharSet :=
  range '\x00' '\x7f'

/-- A single character holds of itself alone. -/
@[simp] theorem holds_single (c d : Char) : (single c).holds d = (c == d) := by
  rw [Bool.eq_iff_iff]
  simp only [single, holds, Bool.and_eq_true, decide_eq_true_eq, beq_iff_eq]
  exact ⟨fun h => Char.le_antisymm h.1 h.2, fun h => h ▸ ⟨Char.le_refl c, Char.le_refl c⟩⟩

end CharSet

end Tablewright.Pattern

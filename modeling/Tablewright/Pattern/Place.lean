import Tablewright.Pattern.CharSet

/-! # Places in a text

A pattern can ask for a place without reading on: an end of the text or of a line, or an edge of a
word. What a place is shows in the characters before and behind it. -/

namespace Tablewright.Pattern

/-- An edge of a word, or the side of one. -/
inductive Edge where
  | start
  | finish
  | either
  | neither
  /-- No character of a word stands in front. -/
  | noneInFront
  /-- No character of a word follows. -/
  | noneFollows
  deriving DecidableEq, Inhabited, Hashable

/-- A place to ask for. -/
inductive Place where
  | textStart
  | textEnd
  | lineStart
  | lineEnd
  /-- A line can end in `\r\n` too, as a whole. -/
  | lineStartCrlf
  | lineEndCrlf
  /-- An edge of the words made of some characters. -/
  | edge (e : Edge) (word : CharSet)
  deriving DecidableEq, Inhabited, Hashable

/-- Is there such an edge where a word does or does not stand before and behind? -/
def Edge.holds (inFront follows : Bool) : Edge → Bool
  | start => !inFront && follows
  | finish => inFront && !follows
  | either => inFront != follows
  | neither => inFront == follows
  | noneInFront => !inFront
  | noneFollows => !follows

/-- Is this the place between two neighbours? At an end of the text there is none. -/
def Place.holds (before behind : Option Char) : Place → Bool
  | textStart => before.isNone
  | textEnd => behind.isNone
  | lineStart => before.isNone || before == some '\n'
  | lineEnd => behind.isNone || behind == some '\n'
  | lineStartCrlf =>
    before.isNone || before == some '\n' || (before == some '\r' && behind != some '\n')
  | lineEndCrlf =>
    behind.isNone || behind == some '\r' || (behind == some '\n' && before != some '\r')
  | edge e word => e.holds (before.any word.holds) (behind.any word.holds)

end Tablewright.Pattern

import Tablewright.Unicode.DisplayTables
import Tablewright.Unicode.PropertyTables

/-! # Character classes

The Unicode properties that names, comments and patterns ask about. A `CharClass` has an ASCII rule
and, from U+0080 on, tables, so that a statement about ASCII text never meets a table:

* `isBlank` (White_Space), `isAlphabetic`, `isNumeric`, `isAlphanumeric`, `isLowercase`,
  `isUppercase`: the properties behind trimming, word splitting and identifiers;
* `isLetter`, `isDecimalDigit`: the general categories L and Nd;
* `isExtender`, `isHidden`: what does not stand for itself where a text is displayed;
* `isWord`, `isDigit`: the classes of patterns.

Names follow the latest version of the character database. Patterns follow the version before it: to
them a character of `isLatest` has no property at all. -/

namespace Tablewright.Unicode

/-- Does the character belong to ASCII? -/
def isAscii (c : Char) : Bool :=
  c.toNat < 0x80

/-- A class of characters: a rule for ASCII and tables beyond it. -/
structure CharClass where
  ascii : Char → Bool
  tables : List (List Span)

/-- Does the class have the character? -/
def CharClass.holds (k : CharClass) (c : Char) : Bool :=
  if isAscii c then k.ascii c else k.tables.any fun table => inTable table c

/-- On ASCII a class is its rule. -/
theorem CharClass.holds_of_isAscii {k : CharClass} {c : Char} (h : isAscii c = true) :
    k.holds c = k.ascii c := by
  simp [holds, h]

namespace CharClass

/-- White_Space. -/
def blank : CharClass :=
  ⟨fun c => c == ' ' || (9 ≤ c.toNat && c.toNat ≤ 13), [blankSpans]⟩

/-- General category L. -/
def letter : CharClass :=
  ⟨Char.isAlpha, [letterSpans]⟩

/-- General category Nd. -/
def decimalDigit : CharClass :=
  ⟨Char.isDigit, [decimalDigitSpans]⟩

/-- General category M: the marks that combine with a letter. -/
def mark : CharClass :=
  ⟨fun _ => false, [markSpans]⟩

/-- General category N: digits and every other kind of number. -/
def numeric : CharClass :=
  ⟨Char.isDigit, [decimalDigitSpans, letterNumberSpans, otherNumberSpans]⟩

/-- Property Alphabetic: letters, letter-like numbers and the marks that spell vowels. -/
def alphabetic : CharClass :=
  ⟨Char.isAlpha, [letterSpans, letterNumberSpans, otherAlphabeticSpans]⟩

/-- Property Lowercase. -/
def lowercase : CharClass :=
  ⟨Char.isLower, [lowercaseSpans]⟩

/-- Property Uppercase. -/
def uppercase : CharClass :=
  ⟨Char.isUpper, [uppercaseSpans]⟩

/-- What makes a word: what is alphabetic, marks, digits, connectors and joiners. -/
def word : CharClass :=
  ⟨fun c => c.isAlphanum || c == '_',
    [letterSpans, letterNumberSpans, otherAlphabeticSpans, markSpans, decimalDigitSpans,
      connectorSpans, joinerSpans]⟩

/-- Script Han. -/
def han : CharClass :=
  ⟨fun _ => false, [hanSpans]⟩

/-- Property Grapheme_Extend: what joins the character in front of it. -/
def extender : CharClass :=
  ⟨fun _ => false, [extenderSpans]⟩

/-- Controls, format characters, separators other than the space, and code points that are private
or not assigned. -/
def hidden : CharClass :=
  ⟨fun c => c.toNat < 0x20 || c.toNat == 0x7F, [hiddenSpans]⟩

/-- What only the latest version of the database assigns. -/
def latest : CharClass :=
  ⟨fun _ => false, [latestSpans]⟩

end CharClass

/-! ## Classes of names and comments -/

/-- White_Space: what trimming removes and what separates words. -/
def isBlank : Char → Bool :=
  CharClass.blank.holds

/-- General category L. -/
def isLetter : Char → Bool :=
  CharClass.letter.holds

/-- General category Nd. -/
def isDecimalDigit : Char → Bool :=
  CharClass.decimalDigit.holds

/-- General category N. -/
def isNumeric : Char → Bool :=
  CharClass.numeric.holds

/-- Property Alphabetic. -/
def isAlphabetic : Char → Bool :=
  CharClass.alphabetic.holds

/-- Alphabetic or numeric: what a word of a name is made of. -/
def isAlphanumeric (c : Char) : Bool :=
  isAlphabetic c || isNumeric c

/-- Property Lowercase. -/
def isLowercase : Char → Bool :=
  CharClass.lowercase.holds

/-- Property Uppercase. -/
def isUppercase : Char → Bool :=
  CharClass.uppercase.holds

/-- Property Grapheme_Extend. -/
def isExtender : Char → Bool :=
  CharClass.extender.holds

/-- Does the character not show? -/
def isHidden : Char → Bool :=
  CharClass.hidden.holds

/-- On ASCII characters the alphanumeric ones are the letters and digits. -/
theorem isAlphanumeric_of_isAscii {c : Char} (h : isAscii c = true) :
    isAlphanumeric c = c.isAlphanum := by
  simp [isAlphanumeric, isAlphabetic, isNumeric, CharClass.alphabetic, CharClass.numeric,
    CharClass.holds_of_isAscii h, Char.isAlphanum]

/-! ## Classes of patterns -/

/-- Does only the latest version of the database assign the character? -/
def isLatest : Char → Bool :=
  CharClass.latest.holds

/-- Does the class have the character in the version of the database that patterns follow? -/
def CharClass.settled (k : CharClass) (c : Char) : Bool :=
  k.holds c && !isLatest c

/-- A decimal digit, as a pattern sees it. -/
def isDigit : Char → Bool :=
  CharClass.decimalDigit.settled

/-- A character of a word, as a pattern sees it. -/
def isWord : Char → Bool :=
  CharClass.word.settled

end Tablewright.Unicode

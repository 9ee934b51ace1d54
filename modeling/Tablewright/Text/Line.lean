import Tablewright.Text.Blank

/-! # Lines

A comment may run over several lines, but most places that show it have room for one. `singleLine`
joins the trimmed, non-empty lines of a text by spaces. -/

namespace Tablewright.Text

/-- The lines of a text; the line feed ends a line. -/
def lines (s : List Char) : List (List Char) :=
  pieces (· == '\n') s

/-- The trimmed, non-empty lines of a text, joined by single spaces. -/
def singleLine (s : List Char) : List Char :=
  List.intercalate [' '] (((lines s).map trim).filter fun l => !l.isEmpty)

/-- Every carriage return that stands before a line feed is dropped, and every line feed becomes a
space. -/
def flattenBreaks : List Char → List Char
  | [] => []
  | '\r' :: '\n' :: cs => ' ' :: flattenBreaks cs
  | c :: cs => (if c == '\n' then ' ' else c) :: flattenBreaks cs

end Tablewright.Text

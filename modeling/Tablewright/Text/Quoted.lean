import Tablewright.Text.Blank

/-! # Quoted text with backslash escapes

`escape q` writes a text so that it can stand between two quotes `q`: a backslash, the quote, a line
feed, a carriage return and a tab each become a backslash and one more character. `read q` reads a
text up to the first bare quote, undoing the escapes. -/

namespace Tablewright.Text

/-- The written form of one character inside the quotes `q`. -/
def escapeChar (q c : Char) : List Char :=
  if c = '\\' then ['\\', '\\']
  else if c = q then ['\\', q]
  else if c = '\n' then ['\\', 'n']
  else if c = '\r' then ['\\', 'r']
  else if c = '\t' then ['\\', 't']
  else [c]

/-- The written form of a text inside the quotes `q`. -/
def escape (q : Char) (s : List Char) : List Char :=
  s.flatMap (escapeChar q)

@[simp] theorem escape_nil (q : Char) : escape q [] = [] := rfl

/-- Characters are escaped one by one. -/
@[simp] theorem escape_cons (q c : Char) (s : List Char) :
    escape q (c :: s) = escapeChar q c ++ escape q s := rfl

/-- The character that stands behind a backslash and the character `c`. -/
def unescapeChar (c : Char) : Char :=
  if c = 'n' then '\n' else if c = 'r' then '\r' else if c = 't' then '\t' else c

/-- Read up to the first bare quote: the text in front of it, its escapes undone, and what follows
the quote. A text without a bare quote, or with a backslash at its end, cannot be read. -/
def readQuoted (q : Char) : List Char → Option (List Char × List Char)
  | [] => none
  | '\\' :: c :: cs => (readQuoted q cs).map fun r => (unescapeChar c :: r.1, r.2)
  | c :: cs =>
    if c = q then some ([], cs)
    else if c = '\\' then none
    else (readQuoted q cs).map fun r => (c :: r.1, r.2)

end Tablewright.Text

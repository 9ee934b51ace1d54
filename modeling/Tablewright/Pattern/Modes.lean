import Tablewright.Pattern.Place

/-! # Modes of a pattern

A pattern switches modes by letters, as in `(?i)` or `(?s-m:…)`. This module holds the modes, what
they do to sets and places, and how a switch is read. Without Unicode a set must stay in ASCII. -/

namespace Tablewright.Pattern

/-- A mode of reading. -/
inductive Mode where
  | ignoreCase
  | multiLine
  | dotAll
  | crlf
  | lazyFirst
  | unicode
  | extended
  deriving DecidableEq, Inhabited

/-- The mode that a letter switches. -/
def Mode.ofLetter? (c : Char) : Option Mode :=
  [('i', ignoreCase), ('m', multiLine), ('s', dotAll), ('R', crlf), ('U', lazyFirst),
    ('u', unicode), ('x', extended)].lookup c

/-- The modes that are on. -/
abbrev Modes := List Mode

namespace Modes

/-- The modes that a pattern starts in. -/
def standard : Modes :=
  [.unicode]

/-- Is a mode on? -/
def has (modes : Modes) (m : Mode) : Bool :=
  modes.contains m

/-- Switch some modes on and others off. -/
def switch (modes : Modes) (on off : List Mode) : Modes :=
  (on ++ modes).filter fun m => !off.contains m

/-! ## Sets and places under modes -/

/-- A property, or its part within ASCII. -/
def property (modes : Modes) (p : Property) : CharSet :=
  if modes.has .unicode then .property p else .inter (.property p) .ascii

/-- The set with all cases of its characters, if case is ignored. -/
def foldCase (modes : Modes) (s : CharSet) : CharSet :=
  if !modes.has .ignoreCase then s
  else if modes.has .unicode then .folded s
  else .inter (.folded s) .ascii

/-- All characters but those of a set. Without Unicode there is no such set, as it leaves ASCII. -/
def complement? (modes : Modes) (s : CharSet) : Option CharSet :=
  if modes.has .unicode then some (.compl s) else none

/-- The set of a point: all characters but the ends of lines. -/
def point? (modes : Modes) : Option CharSet :=
  modes.complement?
    (if modes.has .dotAll then .none else .ofText (if modes.has .crlf then "\r\n" else "\n"))

/-- The set of a character that stands for itself. Without Unicode only ASCII has cases. -/
def literal (modes : Modes) (c : Char) : CharSet :=
  if modes.has .unicode || Unicode.isAscii c then modes.foldCase (.single c) else .single c

/-- The place of a caret: the start of the text or of a line. -/
def caret (modes : Modes) : Place :=
  if !modes.has .multiLine then .textStart
  else if modes.has .crlf then .lineStartCrlf
  else .lineStart

/-- The place of a dollar sign: the end of the text or of a line. -/
def dollar (modes : Modes) : Place :=
  if !modes.has .multiLine then .textEnd
  else if modes.has .crlf then .lineEndCrlf
  else .lineEnd

/-! ## Reading -/

/-- Skip blanks and comments; a comment runs from `#` to the end of its line. -/
def skipNotes (inComment : Bool) : List Char → List Char
  | [] => []
  | c :: cs =>
    if inComment then skipNotes (c != '\n') cs
    else if Unicode.isBlank c then skipNotes false cs
    else if c == '#' then skipNotes true cs
    else c :: cs

/-- Skip what an extended pattern does not count. -/
def skip (modes : Modes) (s : List Char) : List Char :=
  if modes.has .extended then skipNotes false s else s

/-- The modes that a switch such as `i-sm` puts on and off. No mode is named twice, and a minus sign
has a mode behind it. -/
def readSwitch? (s : List Char) : Option (List Mode × List Mode) := do
  let on ← (s.takeWhile (· != '-')).mapM Mode.ofLetter?
  let off ← match s.dropWhile (· != '-') with
    | [] => some []
    | [_] => none
    | _ :: cs => cs.mapM Mode.ofLetter?
  if (on ++ off).Nodup then some (on, off) else none

end Modes

end Tablewright.Pattern

import Tablewright.Json.Basic

/-! # Writing JSON documents

`compact` writes a whole document without blanks, `pretty` over several lines, two blanks for each
level. Only what JSON asks for is escaped: quotes, backslashes and control characters. -/

namespace Tablewright.Json

/-- A hexadecimal digit. -/
def hexDigit (n : Nat) : Char :=
  Char.ofNat (if n < 10 then '0'.toNat + n else 'a'.toNat + (n - 10))

/-- A character between quotes. -/
def quoteChar (c : Char) : List Char :=
  if c = '"' then ['\\', '"']
  else if c = '\\' then ['\\', '\\']
  else if c = '\x08' then ['\\', 'b']
  else if c = '\x0c' then ['\\', 'f']
  else if c = '\n' then ['\\', 'n']
  else if c = '\r' then ['\\', 'r']
  else if c = '\t' then ['\\', 't']
  else if c.toNat < 0x20 then
    ['\\', 'u', '0', '0', hexDigit (c.toNat / 16), hexDigit (c.toNat % 16)]
  else [c]

/-- A text between quotes. -/
def quote (s : String) : List Char :=
  '"' :: s.toList.flatMap quoteChar ++ ['"']

/-- A quoted text that could not be read is written as an empty one. -/
def Str.print : Str → List Char
  | text s => quote s
  | unpaired _ | broken _ => quote ""

mutual

/-- A document without blanks. -/
def compact : Json → List Char
  | .null => "null".toList
  | .bool b => (if b then "true" else "false").toList
  | .number lexeme => lexeme.toList
  | .string s => s.print
  | .array items _ => '[' :: compactItems items ++ [']']
  | .object members _ => '\x7b' :: compactMembers members ++ ['\x7d']
  | .broken _ _ | .absent _ => "null".toList

/-- Items, separated by commas. -/
def compactItems : List Json → List Char
  | [] => []
  | [j] => compact j
  | j :: js => compact j ++ ',' :: compactItems js

/-- Members, separated by commas. -/
def compactMembers : List (Json × Json) → List Char
  | [] => []
  | [(k, j)] => compact k ++ ':' :: compact j
  | (k, j) :: ms => compact k ++ ':' :: compact j ++ ',' :: compactMembers ms

end

/-- A new line at a level. -/
def newLine (level : Nat) : List Char :=
  '\n' :: List.replicate (2 * level) ' '

mutual

/-- A document over several lines, its inside at a level. -/
def prettyAt (level : Nat) : Json → List Char
  | .array items fault =>
    if items.isEmpty then compact (.array [] fault)
    else '[' :: newLine level ++ prettyItems level items ++ newLine (level - 1) ++ [']']
  | .object members fault =>
    if members.isEmpty then compact (.object [] fault)
    else
      '\x7b' :: newLine level ++ prettyMembers level members ++ newLine (level - 1) ++ ['\x7d']
  | j => compact j

/-- Items, each on a line of its own. -/
def prettyItems (level : Nat) : List Json → List Char
  | [] => []
  | [j] => prettyAt (level + 1) j
  | j :: js => prettyAt (level + 1) j ++ ',' :: newLine level ++ prettyItems level js

/-- Members, each on a line of its own. -/
def prettyMembers (level : Nat) : List (Json × Json) → List Char
  | [] => []
  | [(k, j)] => compact k ++ ':' :: ' ' :: prettyAt (level + 1) j
  | (k, j) :: ms =>
    compact k ++ ':' :: ' ' :: prettyAt (level + 1) j ++ ',' :: newLine level ++
      prettyMembers level ms

end

/-- A document over several lines. -/
def pretty (j : Json) : String :=
  String.ofList (prettyAt 1 j)

end Tablewright.Json

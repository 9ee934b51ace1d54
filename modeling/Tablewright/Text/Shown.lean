import Tablewright.Text.Quoted
import Tablewright.Unicode.Class

/-! # Texts that show every character

A text between double quotes, in which each character can be told from every other one: beside the
escapes of quoted text, NUL is `\0`, and a character that is hidden or joins the one in front of it
is written by its number. -/

namespace Tablewright.Text

/-- The number of a character, in hexadecimal digits between braces. -/
def codeEscape (c : Char) : List Char :=
  "\\u\x7b".toList ++ Nat.toDigits 16 c.toNat ++ ['\x7d']

/-- A character as it is shown between double quotes. -/
def showChar (c : Char) : List Char :=
  if c.toNat = 0 then ['\\', '0']
  else if c = '\n' ∨ c = '\r' ∨ c = '\t' then escapeChar '"' c
  else if Unicode.isExtender c || Unicode.isHidden c then codeEscape c
  else escapeChar '"' c

/-- A text between double quotes. -/
def shown (s : String) : String :=
  "\"" ++ String.ofList (s.toList.flatMap showChar) ++ "\""

end Tablewright.Text

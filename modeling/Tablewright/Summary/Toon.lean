import Tablewright.Text.Blank
import Tablewright.Text.Quoted

/-! # The toon format

A compact notation for records: a line `key: value` for a text, `key[n]: a,b` for a list of texts,
and `key[n]{k,l}:` with one row of values for each record of a list. A text is written as it is
unless it could be taken for something else. -/

namespace Tablewright.Toon

/-- The text behind one or more decimal digits. -/
def afterDigits? (s : List Char) : Option (List Char) :=
  if s.head?.any Unicode.isDigit then some (s.dropWhile Unicode.isDigit) else none

/-- The text behind a minus sign, if there is one. -/
def afterMinus : List Char → List Char
  | '-' :: cs => cs
  | cs => cs

/-- The text behind a decimal point and digits, if they come first. -/
def afterFraction : List Char → List Char
  | '.' :: cs => (afterDigits? cs).getD ('.' :: cs)
  | cs => cs

/-- The text behind an exponent, if it comes first. -/
def afterExponent : List Char → List Char
  | 'e' :: '+' :: cs => (afterDigits? cs).getD ('e' :: '+' :: cs)
  | 'e' :: cs => (afterDigits? (afterMinus cs)).getD ('e' :: cs)
  | cs => cs

/-- Could the text be taken for a number? -/
def isNumeral (s : List Char) : Bool :=
  match afterDigits? (afterMinus s) with
  | some rest => (afterExponent (afterFraction rest)).isEmpty
  | none => false

/-- Does the text start like an item of a list? -/
def startsItem : List Char → Bool
  | '-' :: ' ' :: _ => true
  | _ => false

/-- The characters that must stand between quotes. -/
def special : List Char :=
  ":\"\\[]\n\r\t,".toList ++ ['\x7b', '\x7d']

/-- Can the text not stand without quotes? -/
def needsQuotes (s : List Char) : Bool :=
  s.isEmpty || Text.trim s != s || ["true".toList, "false".toList, "null".toList].contains s ||
    isNumeral s || s.any special.contains || startsItem s

/-- A text as a value. -/
def value (text : String) : String :=
  if needsQuotes text.toList then "\"" ++ Text.onChars (Text.escape '"') text ++ "\"" else text

/-- Values in a row. -/
def row (values : List String) : String :=
  String.intercalate "," (values.map value)

/-- The line of a text. -/
def textLine (key text : String) : String :=
  key ++ ": " ++ value text

/-- The line of a list of texts. -/
def listLine (key : String) (texts : List String) : String :=
  let opening := key ++ "[" ++ toString texts.length ++ "]:"
  if texts.isEmpty then opening else opening ++ " " ++ row texts

/-- The lines of a list of records that have the same keys and texts as values. -/
def recordLines (key : String) (keys : List String) (records : List (List String)) : List String :=
  (key ++ "[" ++ toString records.length ++ "]\x7b" ++ String.intercalate "," keys ++ "\x7d:") ::
    records.map fun values => "  " ++ row values

end Tablewright.Toon

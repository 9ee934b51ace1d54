import Tablewright.Unicode.Class

/-! # Identifiers of the generated languages

What may stand as a name in Go source and in a protobuf file. -/

namespace Tablewright.Naming

open Unicode

/-- The words that Go keeps for itself. -/
def goKeywords : List String :=
  ["break", "case", "chan", "const", "continue", "default", "defer", "else", "fallthrough",
   "for", "func", "go", "goto", "if", "import", "interface", "map", "package", "range",
   "return", "select", "struct", "switch", "type", "var"]

/-- Does a text start with a character of one class and go on with characters of another? -/
def startsThen (first rest : Char → Bool) : List Char → Bool
  | [] => false
  | c :: cs => first c && cs.all rest

/-- A Go identifier: a letter or `_`, then letters, numbers and `_`, and no keyword. -/
def isGoIdentifier (s : String) : Bool :=
  startsThen (fun c => isAlphabetic c || c == '_') (fun c => isAlphanumeric c || c == '_')
    s.toList && !goKeywords.contains s

/-- A protobuf identifier: an ASCII letter or `_`, then ASCII letters, digits and `_`. -/
def isProtoIdentifier (s : String) : Bool :=
  startsThen (fun c => c.isAlpha || c == '_') (fun c => c.isAlphanum || c == '_') s.toList

end Tablewright.Naming

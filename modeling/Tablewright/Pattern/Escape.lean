import Tablewright.Pattern.Modes
import Tablewright.Text.Hexadecimal

/-! # Escapes in patterns

What a backslash starts: a character (`\.`, `\n`, `\x41`), a set (`\d`, `\W`, `\p{Han}`) or a place
(`\b`, `\A`). Other letters and all digits stand for nothing. -/

namespace Tablewright.Pattern

/-- What an escape stands for. -/
inductive Escape where
  | literal (c : Char)
  | set (s : CharSet)
  | place (p : Place)
  deriving DecidableEq, Inhabited

namespace Escape

/-- The control character behind a letter. -/
def control? (c : Char) : Option Char :=
  [('a', '\x07'), ('f', '\x0c'), ('n', '\n'), ('r', '\r'), ('t', '\t'), ('v', '\x0b')].lookup c

/-- Does a backslash take the special meaning of the character away? -/
def isPlain (c : Char) : Bool :=
  Unicode.isAscii c && !c.isAlphanum && c != '<' && c != '>'

/-! ## Characters by number -/

/-- The character of a code point, if it has one. -/
def charOfCode? (n : Nat) : Option Char :=
  if n.isValidChar then some (Char.ofNat n) else none

/-- How many digits follow a letter when they stand without braces. -/
def width? (c : Char) : Option Nat :=
  [('x', 2), ('u', 4), ('U', 8)].lookup c

/-- The text up to a closing brace, and the text behind it. -/
def braced? (s : List Char) : Option (List Char × List Char) :=
  match s.dropWhile (· != '\x7d') with
  | [] => none
  | _ :: rest => some (s.takeWhile (· != '\x7d'), rest)

/-- A character by its number, in braces or with a fixed count of digits. Two digits without braces
write a byte, which without Unicode has to be ASCII. -/
def numbered? (modes : Modes) (width : Nat) (s : List Char) : Option (Escape × List Char) := do
  let isBraced := s.head? == some '\x7b'
  let (digits, rest) ←
    if isBraced then braced? (s.drop 1)
    else if s.length < width then none
    else some (s.splitAt width)
  if digits.isEmpty then none
  let c ← charOfCode? (← Text.hexNumber? digits)
  if width = 2 ∧ !isBraced ∧ !modes.has .unicode ∧ !Unicode.isAscii c then none
  else return (literal c, rest)

/-! ## Properties by name -/

/-- A property name without blanks, hyphens, underscores and capitals. -/
def bareName (name : List Char) : String :=
  String.ofList (Unicode.asciiLower (name.filter fun c => c != ' ' && c != '_' && c != '-'))

/-- The set behind a bare name. -/
def property? (name : String) : Option CharSet :=
  if name = "any" then some .any
  else CharSet.property <$>
    [("l", .letter), ("letter", .letter), ("m", .mark), ("mark", .mark), ("nd", .decimalDigit),
      ("decimalnumber", .decimalDigit), ("n", .numeric), ("number", .numeric),
      ("alphabetic", .alphabetic), ("alpha", .alphabetic), ("lowercase", .lowercase),
      ("lower", .lowercase), ("uppercase", .uppercase), ("upper", .uppercase),
      ("whitespace", .blank), ("space", .blank), ("han", .han), ("hani", .han)].lookup name

/-- The kinds of a property that may be named in front of its value. -/
def isPropertyKind (name : String) : Bool :=
  ["script", "sc", "generalcategory", "gc"].contains name

/-- The set that the inside of `\p{…}` names: a property, `kind=value`, `kind:value`, or
`kind!=value` for all that lacks it. -/
def named? (inside : List Char) : Option CharSet :=
  let isSign (c : Char) : Bool := c == '=' || c == ':' || c == '!'
  let first := bareName (inside.takeWhile fun c => !isSign c)
  match inside.dropWhile fun c => !isSign c with
  | [] => property? first
  | '!' :: '=' :: value =>
    if isPropertyKind first then (property? (bareName value)).map .compl
    else none
  | '!' :: _ => none
  | _ :: value =>
    if isPropertyKind first then property? (bareName value) else none

/-- A set by the name of a property, in braces or of one letter. -/
def propertySet? (s : List Char) : Option (CharSet × List Char) :=
  match s with
  | '\x7b' :: cs => do
    let (name, rest) ← braced? cs
    return (← named? name, rest)
  | c :: cs => (named? [c]).map (·, cs)
  | [] => none

/-! ## Sets and places by letter -/

/-- The property behind a lower case letter. -/
def letterProperty? (c : Char) : Option Property :=
  [('d', .decimalDigit), ('s', .blank), ('w', .word)].lookup c

/-- The place that a letter names. -/
def place? (modes : Modes) (c : Char) : Option Place :=
  let word := modes.property .word
  [('A', .textStart), ('z', .textEnd), ('b', .edge .either word), ('B', .edge .neither word),
    ('<', .edge .start word), ('>', .edge .finish word)].lookup c

/-- The edge behind `\b` when a word in braces follows it; a repetition may follow instead. -/
def edge? (s : List Char) : Option (Edge × List Char) :=
  let isNameChar (c : Char) : Bool := c.isAlpha || c == '-'
  match s with
  | '\x7b' :: cs =>
    match cs with
    | [] => none
    | c :: _ =>
      if !isNameChar c then some (.either, s)
      else match cs.dropWhile isNameChar with
        | '\x7d' :: rest =>
          let edges : List (String × Edge) :=
            [("start", .start), ("end", .finish), ("start-half", .noneInFront),
              ("end-half", .noneFollows)]
          (edges.lookup (String.ofList (cs.takeWhile isNameChar))).map (·, rest)
        | _ => none
  | _ => some (.either, s)

/-- The escape that stands behind a backslash, and the text behind the escape. -/
def read? (modes : Modes) (s : List Char) : Option (Escape × List Char) :=
  match s with
  | [] => none
  | c :: cs =>
    if isPlain c then some (literal c, cs)
    else if c = 'p' ∨ c = 'P' then do
      if !modes.has .unicode then none
      let (s, rest) ← propertySet? cs
      let s := modes.foldCase s
      return (set (if c = 'P' then .compl s else s), rest)
    else if c = 'b' then
      (edge? cs).map fun (e, rest) => (place (.edge e (modes.property .word)), rest)
    else
      (control? c).map (fun d => (literal d, cs)) <|>
        (width? c).bind (fun width => numbered? modes width cs) <|>
        (letterProperty? c).map (fun p => (set (modes.property p), cs)) <|>
        ((letterProperty? c.toLower).bind fun p => modes.complement? (modes.property p)).map
          (fun s => (set s, cs)) <|>
        (place? modes c).map (fun p => (place p, cs))

end Escape

end Tablewright.Pattern

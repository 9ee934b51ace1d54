import Tablewright.Dialect.RuleTable

/-! # Spellings of column types

The built-in rules describe a column type by its leading word and by what has to follow directly.
`Tail` lists the shapes that can be asked for. The word has to end where it stands: `int` is not the
leading word of `integer`. -/

namespace Tablewright.Dialect

open Unicode (isDigit isWord)

/-- The text behind one or more decimal digits. -/
def afterDigits? (s : List Char) : Option (List Char) :=
  match s with
  | c :: cs => if isDigit c then some (cs.dropWhile isDigit) else none
  | [] => none

/-- The text behind a given beginning. -/
def after? : List Char → List Char → Option (List Char)
  | [], s => some s
  | _ :: _, [] => none
  | k :: ks, c :: cs => if k = c then after? ks cs else none

/-- The text behind a width such as `(11)`. -/
def afterWidth? (s : List Char) : Option (List Char) := do
  let s ← after? ['('] s
  let s ← afterDigits? s
  after? [')'] s

/-- The text behind a precision and a scale such as `(10,2)`. -/
def afterPrecision? (s : List Char) : Option (List Char) := do
  let s ← after? ['('] s
  let s ← afterDigits? s
  let s ← after? [','] s
  let s ← afterDigits? s
  after? [')'] s

/-- Does a text start with a parenthesis that closes on the same line around something? -/
def startsWithMembers : List Char → Bool
  | '(' :: c :: cs => c != '\n' && (cs.takeWhile (· != '\n')).contains ')'
  | _ => false

/-- What has to follow the leading word of a type. -/
inductive Tail where
  /-- anything -/
  | free
  /-- `(1)` -/
  | one
  /-- a width -/
  | width
  /-- a precision and a scale -/
  | precision
  /-- a list of members in parentheses -/
  | members
  /-- ` unsigned`, possibly behind a width -/
  | unsigned
  deriving DecidableEq, Inhabited

/-- Does a text go on in this shape? -/
def Tail.accepts : Tail → List Char → Bool
  | free, _ => true
  | one, s => (after? "(1)".toList s).isSome
  | width, s => (afterWidth? s).isSome
  | precision, s => (afterPrecision? s).isSome
  | members, s => startsWithMembers s
  | unsigned, s => (after? " unsigned".toList ((afterWidth? s).getD s)).isSome

/-- The text behind a leading word that ends there. -/
def afterWord? (word : String) (s : List Char) : Option (List Char) :=
  match after? word.toList s with
  | some [] => some []
  | some (c :: cs) => if isWord c then none else some (c :: cs)
  | none => none

/-- The rule for one spelling. -/
def spelled (word : String) (tail : Tail) (kind : ColumnKind) : Rule where
  accepts s := match afterWord? word s with
    | some rest => tail.accepts rest
    | none => false
  kind := kind

end Tablewright.Dialect

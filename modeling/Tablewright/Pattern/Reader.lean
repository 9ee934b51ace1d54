import Tablewright.Pattern.Bracket
import Tablewright.Pattern.Term
import Tablewright.Text.Blank

/-! # Reading patterns

`Term.read?` reads the text of a pattern. It works through the text thing by thing and keeps a
`Reader`: the branch that is read, the branches and groups around it, and the brackets that are
open. -/

namespace Tablewright.Pattern

/-- Work through a text with a step that takes text away; one that does not ends in failure. -/
def workThrough {σ : Type} (step : σ → List Char → Option (σ × List Char)) (state : σ)
    (s : List Char) : Option σ :=
  match s with
  | [] => some state
  | s =>
    match step state s with
    | none => none
    | some (state', rest) =>
      -- always so for the steps of this module; the test is what makes the recursion end
      if rest.length < s.length then workThrough step state' rest else none
termination_by s.length

/-- A group that is read: its number if it captures, the modes to go back to behind it, its finished
branches and the parts of its last one, each in reverse order. -/
structure Group where
  number : Option Nat
  modes : Modes
  branches : List Term
  parts : List Term
  deriving Inhabited

namespace Group

/-- A group that starts. -/
def start (number : Option Nat) (modes : Modes) : Group :=
  ⟨number, modes, [], []⟩

/-- The last branch as one term. -/
def branch (g : Group) : Term :=
  .sideBySide g.parts.reverse

/-- The inside of the group as one term. -/
def value (g : Group) : Term :=
  .oneOf (g.branch :: g.branches).reverse

/-- Put a part behind the others. -/
def add (g : Group) (part : Term) : Group :=
  { g with parts := part :: g.parts }

/-- Begin another branch. -/
def split (g : Group) : Group :=
  { g with branches := g.branch :: g.branches, parts := [] }

end Group

/-- The state of reading a pattern; `captures` is the count of the groups that capture so far. -/
structure Reader where
  modes : Modes
  group : Group
  outer : List Group
  brackets : List Bracket
  captures : Nat
  names : List (List Char)
  deriving Inhabited

namespace Reader

/-- The state before the text. -/
def start : Reader :=
  ⟨.standard, .start none .standard, [], [], 0, []⟩

/-- Put a part behind what is read. -/
def add (r : Reader) (part : Term) : Reader :=
  { r with group := r.group.add part }

/-- Put a set behind what is read. -/
def addSet (r : Reader) (s : CharSet) : Reader :=
  r.add (.chars s 0)

/-! ## Repetitions -/

/-- Repeat the last part, which cannot be a switch of modes. -/
def repeat? (r : Reader) (least : Nat) (most : Option Nat) : Option Reader :=
  match r.group.parts with
  -- nothing to repeat
  | [] | .switch :: _ => none
  | part :: parts => some { r with group.parts := .times part least most :: parts }

/-- Pass over the question mark that makes a repetition lazy. -/
def passLazy : List Char → List Char
  | '?' :: cs => cs
  | cs => cs

/-- A number of repetitions, with blanks around it. -/
def count? (s : List Char) : Option Nat :=
  let digits := Text.trim s
  if !digits.isEmpty && digits.all Char.isDigit then
    let n := digits.foldl (fun n c => 10 * n + (c.toNat - '0'.toNat)) 0
    -- a count is a number of 32 bits
    if n ≤ 0xFFFFFFFF then some n else none
  else none

/-- The bounds inside the braces of a repetition: `m`, `m,` or `m,n`. -/
def bounds? (inside : List Char) : Option (Nat × Option Nat) :=
  match Text.pieces (· == ',') inside with
  | [exact] => (count? exact).map fun n => (n, some n)
  | [least, most] => do
    let least ← count? least
    if most.isEmpty then return (least, none)
    let most ← count? most
    if least ≤ most then return (least, some most) else none
  | _ => none

/-! ## Groups -/

/-- May the character stand in the name of a group? -/
def isNameChar (c : Char) : Bool :=
  c == '_' || c == '.' || c == '[' || c == ']' || Unicode.isAlphanumeric c

/-- Open a group and stay in the modes that are on. -/
def openGroup (r : Reader) (number : Option Nat) : Reader :=
  { r with group := .start number r.modes, outer := r.group :: r.outer }

/-- Open a group that captures. -/
def openCapture (r : Reader) : Reader :=
  { r.openGroup (some r.captures) with captures := r.captures + 1 }

/-- Open a group with a name that no other group has; the text starts with the name. -/
def openNamed? (r : Reader) (s : List Char) : Option (Reader × List Char) :=
  let name := s.takeWhile isNameChar
  match name, s.dropWhile isNameChar with
  | c :: _, '>' :: rest =>
    if (c == '_' || Unicode.isAlphabetic c) && !r.names.contains name then
      some ({ r.openCapture with names := name :: r.names }, rest)
    else none
  | _, _ => none

/-- Switch modes for the rest of the group, or open a group with switched modes; the text starts with
the switch. -/
def switchModes? (r : Reader) (s : List Char) : Option (Reader × List Char) := do
  let ends (c : Char) : Bool := c == ':' || c == ')'
  let letters := s.takeWhile fun c => !ends c
  let (on, off) ← Modes.readSwitch? letters
  let modes := r.modes.switch on off
  match s.dropWhile fun c => !ends c with
  | ':' :: rest => some ({ r.openGroup none with modes := modes }, rest)
  | ')' :: rest =>
    if letters.isEmpty then none
    else some ({ r.add .switch with modes := modes }, rest)
  | _ => none

/-- What an opening parenthesis starts. Looking around is not possible. -/
def open? (r : Reader) (s : List Char) : Option (Reader × List Char) :=
  match r.modes.skip s with
  | '?' :: 'P' :: '<' :: cs => r.openNamed? cs
  | '?' :: '<' :: cs => r.openNamed? cs
  | '?' :: cs => r.switchModes? cs
  | cs => some (r.openCapture, cs)

/-- Close the innermost group. -/
def close? (r : Reader) : Option Reader :=
  match r.outer with
  | [] => none
  | parent :: outer =>
    some { r with
      modes := r.group.modes
      group := parent.add (.group r.group.number r.group.value)
      outer := outer }

/-! ## The whole pattern -/

/-- Read one thing outside brackets. -/
def part? (r : Reader) (s : List Char) : Option (Reader × List Char) :=
  match r.modes.skip s with
  | [] => some (r, [])
  | '(' :: cs => r.open? cs
  | ')' :: cs => r.close?.map (·, cs)
  | '|' :: cs => some ({ r with group := r.group.split }, cs)
  | '[' :: cs =>
    let (b, rest) := Bracket.start r.modes cs
    some ({ r with brackets := [b] }, rest)
  | '*' :: cs => (r.repeat? 0 none).map (·, passLazy cs)
  | '+' :: cs => (r.repeat? 1 none).map (·, passLazy cs)
  | '?' :: cs => (r.repeat? 0 (some 1)).map (·, passLazy cs)
  | '\x7b' :: cs => do
    let (inside, rest) ← Escape.braced? cs
    let (least, most) ← bounds? inside
    return (← r.repeat? least most, passLazy rest)
  | '.' :: cs => r.modes.point?.map fun s => (r.addSet s, cs)
  | '^' :: cs => some (r.add (.place r.modes.caret), cs)
  | '$' :: cs => some (r.add (.place r.modes.dollar), cs)
  | '\\' :: cs => do
    match ← Escape.read? r.modes cs with
    | (.literal c, rest) => return (r.addSet (r.modes.literal c), rest)
    | (.set s, rest) => return (r.addSet s, rest)
    | (.place p, rest) => return (r.add (.place p), rest)
  | c :: cs => some (r.addSet (r.modes.literal c), cs)

/-- Read one thing. -/
def step? (r : Reader) (s : List Char) : Option (Reader × List Char) :=
  match r.brackets with
  | [] => r.part? s
  | b :: outer => do
    match ← b.step? r.modes outer s with
    | (.inside b outer, rest) => return ({ r with brackets := b :: outer }, rest)
    | (.closed s, rest) => return ({ r.add (.chars s.set s.depth) with brackets := [] }, rest)

/-- The term at the end of the text, when every group and bracket is closed. -/
def finish? (r : Reader) : Option Term :=
  if r.outer.isEmpty && r.brackets.isEmpty then some r.group.value else none

end Reader

/-- The term that a text writes. -/
def Term.read? (pattern : String) : Option Term :=
  (workThrough Reader.step? .start pattern.toList).bind Reader.finish?

end Tablewright.Pattern

import Tablewright.Pattern.Escape

/-! # Sets in brackets

The part of a pattern between `[` and `]`: single characters, ranges, escapes, classes such as
`[:alpha:]`, nested brackets, and the operators `&&`, `--` and `~~`, which bind weaker than standing
side by side and group to the left. -/

namespace Tablewright.Pattern

/-- An operator between sets. -/
inductive SetOp where
  | inter
  | diff
  | symmDiff
  deriving DecidableEq, Inhabited

/-- What the operator does. -/
def SetOp.apply : SetOp → CharSet → CharSet → CharSet
  | inter => .inter
  | diff => .diff
  | symmDiff => .symmDiff

/-- The operator at the start of a text. -/
def SetOp.read? : List Char → Option (SetOp × List Char)
  | '&' :: '&' :: cs => some (inter, cs)
  | '-' :: '-' :: cs => some (diff, cs)
  | '~' :: '~' :: cs => some (symmDiff, cs)
  | _ => none

/-- A set and how deeply the brackets in it are nested. -/
structure Nested where
  set : CharSet
  depth : Nat
  deriving DecidableEq, Inhabited

/-- Items that stand side by side: their union, how many they are, and the depth of the deepest. -/
structure Items where
  set : CharSet
  count : Nat
  depth : Nat
  deriving DecidableEq, Inhabited

namespace Items

/-- No items. -/
def none : Items :=
  ⟨.none, 0, 0⟩

/-- Put one more item beside the others. -/
def add (items : Items) (item : Nested) : Items :=
  ⟨.union items.set item.set, items.count + 1, max items.depth item.depth⟩

/-- All items as one set; two or more nest what they hold. -/
def union (items : Items) : Nested :=
  ⟨items.set, if items.count < 2 then items.depth else items.depth + 1⟩

end Items

/-- Brackets that are read: whether they stand for the complement, the operator that waits for its
right side with its left side, and the items since then. -/
structure Bracket where
  negated : Bool
  pending : Option (SetOp × Nested)
  items : Items
  deriving DecidableEq, Inhabited

namespace Bracket

/-- Put one more item beside the others. -/
def add (b : Bracket) (item : Nested) : Bracket :=
  { b with items := b.items.add item }

/-- The set before the closing bracket is seen. -/
def value (modes : Modes) (b : Bracket) : Nested :=
  let right := b.items.union
  match b.pending with
  | none => right
  | some (op, left) =>
    ⟨op.apply (modes.foldCase left.set) (modes.foldCase right.set), max left.depth right.depth + 1⟩

/-- Let an operator follow. -/
def operate (modes : Modes) (b : Bracket) (op : SetOp) : Bracket :=
  { b with pending := some (op, b.value modes), items := .none }

/-- The set of the whole brackets. Cases are added before the complement is taken. -/
def close? (modes : Modes) (b : Bracket) : Option Nested := do
  let v := b.value modes
  let s := modes.foldCase v.set
  return ⟨← if b.negated then modes.complement? s else some s, v.depth + 1⟩

/-- Start brackets, behind their `[`. A `]` or hyphens that come first stand for themselves. -/
def start (modes : Modes) (s : List Char) : Bracket × List Char :=
  let (negated, s) := match modes.skip s with
    | '^' :: cs => (true, modes.skip cs)
    | s => (false, s)
  let b : Bracket := ⟨negated, none, .none⟩
  match s with
  | ']' :: cs => (b.add ⟨.single ']', 0⟩, cs)
  | s =>
    let hyphens := s.takeWhile (· == '-')
    (hyphens.foldl (fun b c => b.add ⟨.single c, 0⟩) b, s.drop hyphens.length)

/-! ## Items -/

/-- The classes of ASCII by name. -/
def namedClass? (name : String) : Option CharSet :=
  let lower : CharSet := .range 'a' 'z'
  let upper : CharSet := .range 'A' 'Z'
  let digit : CharSet := .range '0' '9'
  [("alpha", .union lower upper), ("digit", digit), ("lower", lower), ("upper", upper),
    ("alnum", .union digit (.union lower upper)), ("ascii", .ascii), ("blank", .ofText " \t"),
    ("cntrl", .union (.range '\x00' '\x1f') (.single '\x7f')), ("graph", .range '!' '~'),
    ("print", .range ' ' '~'), ("space", .ofText " \t\n\r\x0b\x0c"),
    ("punct", .diff (.range '!' '~') (.union digit (.union lower upper))),
    ("word", .union (.single '_') (.union digit (.union lower upper))),
    ("xdigit", .union digit (.union (.range 'a' 'f') (.range 'A' 'F')))].lookup name

/-- A class such as `[:alpha:]` or `[:^digit:]`, behind its `[`. -/
def classAt? (modes : Modes) (s : List Char) : Option (CharSet × List Char) := do
  let (negated, s) ← match s with
    | ':' :: '^' :: cs => some (true, cs)
    | ':' :: cs => some (false, cs)
    | _ => none
  match s.dropWhile (· != ':') with
  | ':' :: ']' :: rest =>
    let s := modes.foldCase (← namedClass? (String.ofList (s.takeWhile (· != ':'))))
    return (← if negated then modes.complement? s else some s, rest)
  | _ => none

/-- A character or an escape. -/
def atom? (modes : Modes) (s : List Char) : Option (Escape × List Char) := do
  let (atom, rest) ← match s with
    | [] => none
    | '\\' :: cs => Escape.read? modes cs
    | c :: cs => some (.literal c, cs)
  match atom with
  | .literal c => if modes.has .unicode || Unicode.isAscii c then some (atom, rest) else none
  | .set _ => some (atom, rest)
  | .place _ => none

/-- Does a hyphen start the text that makes a range of what stands around it? -/
def joins (modes : Modes) (s : List Char) : Bool :=
  match s with
  | '-' :: cs =>
    match modes.skip cs with
    | ']' :: _ | '-' :: _ => false
    | _ => true
  | _ => false

/-- A range, or a single character or escape. -/
def item? (modes : Modes) (s : List Char) : Option (CharSet × List Char) := do
  let (first, rest) ← atom? modes s
  let rest := modes.skip rest
  if joins modes rest then
    let (last, rest) ← atom? modes (modes.skip (rest.drop 1))
    match first, last with
    | .literal c, .literal d => if c ≤ d then some (.range c d, rest) else none
    | _, _ => none
  else match first with
    | .literal c => some (.single c, rest)
    | .set s => some (s, rest)
    | .place _ => none

/-- What follows a step inside brackets: brackets that are still open, the innermost first, or the
set of the outermost ones. -/
inductive Outcome where
  | inside (b : Bracket) (outer : List Bracket)
  | closed (s : Nested)
  deriving DecidableEq, Inhabited

/-- Read one thing inside brackets. -/
def step? (modes : Modes) (b : Bracket) (outer : List Bracket) (s : List Char) :
    Option (Outcome × List Char) :=
  match modes.skip s with
  | [] => none
  | '[' :: cs =>
    match classAt? modes cs with
    | some (s, rest) => some (.inside (b.add ⟨s, 0⟩) outer, rest)
    | none =>
      let (inner, rest) := start modes cs
      some (.inside inner (b :: outer), rest)
  | ']' :: cs => do
    let s ← b.close? modes
    match outer with
    | [] => return (.closed s, cs)
    | parent :: outer => return (.inside (parent.add s) outer, cs)
  | s =>
    match SetOp.read? s with
    | some (op, rest) => some (.inside (b.operate modes op) outer, rest)
    | none => (item? modes s).map fun (s, rest) => (.inside (b.add ⟨s, 0⟩) outer, rest)

end Bracket

end Tablewright.Pattern

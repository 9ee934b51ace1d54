import Tablewright.Pattern.Regex

/-! # Patterns as they are written

A `Term` is a pattern as a tree: what stands side by side, what is a choice, what is repeated and
what is grouped. `regex` is what it means, `depth` says how deeply its parts are nested. -/

namespace Tablewright.Pattern

/-- A written pattern or a part of one. -/
inductive Term where
  /-- One character of a set; brackets around sets may be nested. -/
  | chars (s : CharSet) (nesting : Nat)
  | place (p : Place)
  /-- A switch of modes, which reads nothing. -/
  | switch
  | times (t : Term) (least : Nat) (most : Option Nat)
  /-- A group, with a number if it captures what it reads. -/
  | group (number : Option Nat) (t : Term)
  | concat (ts : List Term)
  | choice (ts : List Term)
  deriving Inhabited

namespace Term

/-- Terms side by side. One alone stands for itself. -/
def sideBySide : List Term → Term
  | [t] => t
  | ts => concat ts

/-- A choice of terms. One alone stands for itself. -/
def oneOf : List Term → Term
  | [t] => t
  | ts => choice ts

/-! ## Meaning -/

mutual

/-- The expression that a term stands for. How greedily a part is repeated and what a group captures
does not change whether a pattern is found. -/
def regex : Term → Regex
  | chars s _ => .chars s
  | place p => .place p
  | switch => .empty
  | times t least most => .times t.regex least most
  | group _ t => t.regex
  | concat ts => .all (regexes ts)
  | choice [] => .empty
  | choice (t :: ts) => .oneOf t.regex (regexes ts)

/-- The expressions of some terms. -/
def regexes : List Term → List Regex
  | [] => []
  | t :: ts => t.regex :: regexes ts

end

/-! ## Nesting -/

mutual

/-- How deeply the parts of a term are nested. -/
def depth : Term → Nat
  | chars _ nesting => nesting
  | place _ | switch | concat [] | choice [] => 0
  | times t _ _ | group _ t => t.depth + 1
  | concat (t :: ts) | choice (t :: ts) => max t.depth (depths ts) + 1

/-- The greatest depth of some terms. -/
def depths : List Term → Nat
  | [] => 0
  | t :: ts => max t.depth (depths ts)

end

/-- How deeply the parts of a pattern may be nested. -/
def depthLimit : Nat :=
  250

end Term

end Tablewright.Pattern

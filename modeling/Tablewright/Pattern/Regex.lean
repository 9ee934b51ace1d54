import Tablewright.Pattern.Place
import Std.Data.HashSet

/-! # Regular expressions over characters and their neighbours

A regular expression reads characters of given sets and may ask for a place without reading on.
`nullable` says when it needs no further character, `steps` what may be left of it after one, and
`foundIn` follows all remainders through a text at once. -/

namespace Tablewright.Pattern

/-- A regular expression. -/
inductive Regex where
  | empty
  | chars (s : CharSet)
  | place (p : Place)
  | seq (a b : Regex)
  | alt (a b : Regex)
  /-- The expression `least` times or more, and no more often than `most` if that is given. -/
  | times (a : Regex) (least : Nat) (most : Option Nat)
  deriving DecidableEq, Inhabited, Hashable

namespace Regex

/-- Can the expression be left at a place between two neighbours without reading on? -/
def nullable (before behind : Option Char) : Regex → Bool
  | empty => true
  | chars _ => false
  | place p => p.holds before behind
  | seq a b => a.nullable before behind && b.nullable before behind
  | alt a b => a.nullable before behind || b.nullable before behind
  | times a least _ => least == 0 || a.nullable before behind

/-- One expression behind another. -/
def andThen : Regex → Regex → Regex
  | empty, b => b
  | seq a a', b => seq a (a'.andThen b)
  | a, b => seq a b

/-- The further repetitions of an expression. -/
def repeated (a : Regex) (least : Nat) (most : Option Nat) : Regex :=
  if most = some 0 then empty else times a least most

/-- What may be left of the expression once it has read `c` at a place behind `before`. Of a
repetition one time has read it; those in front of it may have read nothing, if that is possible. -/
def steps (before : Option Char) (c : Char) : Regex → List Regex
  | empty => []
  | chars s => if s.holds c then [empty] else []
  | place _ => []
  | seq a b =>
    (a.steps before c).map (·.andThen b) ++
      if a.nullable before (some c) then b.steps before c else []
  | alt a b => a.steps before c ++ b.steps before c
  | times a least most =>
    let least := if a.nullable before (some c) then 0 else least - 1
    if most = some 0 then []
    else (a.steps before c).map (·.andThen (a.repeated least (most.map (· - 1))))

/-- The expressions of a list, each once. -/
def distinct (rs : List Regex) : List Regex :=
  (Std.HashSet.ofList rs).toList

/-- Leaving out repetitions leaves the same expressions. -/
@[simp] theorem mem_distinct {r : Regex} {rs : List Regex} : r ∈ distinct rs ↔ r ∈ rs := by
  simp [distinct]

/-- Does one of the remainders end somewhere in the text, or a match that starts later on? -/
def follow (r : Regex) (before : Option Char) (live : List Regex) : List Char → Bool
  | [] => live.any (nullable before none)
  | c :: cs =>
    live.any (nullable before (some c)) ||
      follow r (some c) (distinct (r :: live.flatMap (steps before c))) cs

/-- Does the expression match a stretch of the text? -/
def foundIn (r : Regex) (text : List Char) : Bool :=
  r.follow none [r] text

/-- All expressions, one behind the other. -/
def all (rs : List Regex) : Regex :=
  rs.foldr andThen empty

/-- One of the expressions; the first is given apart. -/
def oneOf (r : Regex) : List Regex → Regex
  | [] => r
  | s :: rs => alt r (oneOf s rs)

end Regex

end Tablewright.Pattern

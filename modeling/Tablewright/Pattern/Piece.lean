import Tablewright.Pattern.Ranges
import Tablewright.Pattern.Term

/-! # Patterns in few pieces

What an automaton is built for: a pattern in which empty pieces, groups without a number and
repetitions that change nothing are gone, choices between characters have become sets, and what all
branches of a choice start with stands in front of it. -/

namespace Tablewright.Pattern

/-- A piece of a pattern. -/
inductive Piece where
  | empty
  | chars (s : Ranges)
  | place (p : Place)
  | seq (a b : Piece)
  | alt (a b : Piece)
  | times (a : Piece) (least : Nat) (most : Option Nat)
  | capture (number : Nat) (a : Piece)
  deriving DecidableEq, Inhabited

namespace Piece

/-! ## Lengths -/

/-- Can the piece match nothing but the empty text? A set without characters matches no text. -/
def isBlank : Piece → Bool
  | empty | place _ => true
  | chars _ => false
  | seq a b | alt a b => a.isBlank && b.isBlank
  | times a _ _ | capture _ a => a.isBlank

/-- Does the piece match some text, and always one that is not empty? -/
def isSolid : Piece → Bool
  | empty | place _ => false
  | chars s => !s.isEmpty
  | seq a b => a.isSolid || b.isSolid
  | alt a b => a.isSolid && b.isSolid
  | times a least _ => least != 0 && a.isSolid
  | capture _ a => a.isSolid

/-! ## Side by side -/

/-- One piece behind another. -/
def andThen : Piece → Piece → Piece
  | empty, b => b
  | seq a a', b => seq a (a'.andThen b)
  | a, b => if b = empty then a else seq a b

/-- Pieces side by side. -/
def all (ps : List Piece) : Piece :=
  ps.foldr andThen empty

/-- The pieces that stand side by side. -/
def parts : Piece → List Piece
  | empty => []
  | seq a b => a :: b.parts
  | a => [a]

/-- The set of a piece that reads one character. -/
def set? : Piece → Option Ranges
  | chars s => some s
  | _ => none

/-- Does the piece read one given character? -/
def isLiteral : Piece → Bool
  | chars [(first, last)] => first == last
  | _ => false

/-- The pieces that stand side by side, neighbouring given characters taken together. -/
def runs (p : Piece) : List (List Piece) :=
  p.parts.splitBy fun a b => a.isLiteral && b.isLiteral

/-! ## Choices -/

/-- The branches of a choice. -/
def branches : Piece → List Piece
  | alt a b => a.branches ++ b.branches
  | a => [a]

/-- One of some branches. -/
def oneOf : List Piece → Piece
  | [] => empty
  | [p] => p
  | p :: ps => alt p (oneOf ps)

/-- The set that a choice between single characters comes to, or one between sets. -/
def mergedSet? (ps : List Piece) : Option Piece :=
  if ps.all isLiteral || ps.all (fun p => p.set?.isSome && !p.isLiteral) then
    some (chars (.ordered (ps.filterMap set?).flatten))
  else none

/-- What two lists start with alike. -/
def sharedStart {α : Type} [DecidableEq α] : List α → List α → List α
  | a :: as, b :: bs => if a = b then a :: sharedStart as bs else []
  | _, _ => []

/-- What all branches start with, if each of them has more than one run. -/
def sharedRuns (ps : List Piece) : List (List Piece) :=
  match ps.map runs with
  | [] => []
  | first :: rest =>
    if (first :: rest).all fun runs => 2 ≤ runs.length then rest.foldl sharedStart first else []

/-- A choice between branches, none of which is a choice. -/
def flatChoice (ps : List Piece) : Piece :=
  (mergedSet? ps).getD (oneOf ps)

/-- A choice, with what all branches start with in front of it. -/
def choice (ps : List Piece) : Piece :=
  match ps.flatMap branches with
  | [p] => p
  | ps =>
    match mergedSet? ps with
    | some p => p
    | none =>
      match sharedRuns ps with
      | [] => oneOf ps
      | shared =>
        let rest (p : Piece) : Piece := all (p.runs.drop shared.length).flatten
        (all shared.flatten).andThen (flatChoice (ps.flatMap fun p => (rest p).branches))

/-! ## Repetitions -/

/-- A repetition. What can only be empty need not be repeated. -/
def repeated (a : Piece) (least : Nat) (most : Option Nat) : Piece :=
  let least := if a.isBlank then min least 1 else least
  let most := if a.isBlank then some (min (most.getD 1) 1) else most
  if most = some 0 then empty
  else if least = 1 ∧ most = some 1 then a
  else times a least most

end Piece

mutual

/-- The piece that a term comes to. -/
def Term.piece : Term → Piece
  | .chars s _ => .chars s.ranges
  | .place p => .place p
  | .switch => .empty
  | .times t least most => t.piece.repeated least most
  | .group none t => t.piece
  | .group (some number) t => .capture number t.piece
  | .concat ts => .all (Term.pieces ts)
  | .choice ts => .choice (Term.pieces ts)

/-- The pieces of some terms. -/
def Term.pieces : List Term → List Piece
  | [] => []
  | t :: ts => t.piece :: Term.pieces ts

end

end Tablewright.Pattern

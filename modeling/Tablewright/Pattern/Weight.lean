import Tablewright.Pattern.Piece
import Tablewright.Unicode.Utf8
import Std.Data.HashSet

/-! # The weight of patterns

Patterns are searched with automata over bytes, one that reads forwards and one that reads backwards.
The weight of an automaton is the room that its states take: 32 for each state, 4 for each way to go
on that a branching has, 8 for each transition in a list of them. Patterns whose automata are too
heavy are refused. -/

namespace Tablewright.Pattern

open Unicode (ByteRanges byteRanges utf8Bytes)

/-- The direction in which a text is read. -/
inductive Direction where
  | forward
  | backward
  deriving DecidableEq, Inhabited

/-- The weight of a state. -/
def stateWeight : Nat :=
  32

/-- The weight of a state that branches. -/
def branchWeight (ways : Nat) : Nat :=
  stateWeight + 4 * ways

/-- The weight of a state with a list of transitions. -/
def listWeight (transitions : Nat) : Nat :=
  stateWeight + 8 * transitions

/-! ## Sets -/

/-- The elements of a list, each once. -/
def eachOnce {α : Type} [BEq α] [Hashable α] (xs : List α) : List α :=
  (Std.HashSet.ofList xs).toList

/-- Sequences that start with the same byte range, put together. -/
def byFirst (seqs : List ByteRanges) : List (List ByteRanges) :=
  seqs.splitBy fun a b => a.head? == b.head?

/-- The states that read the sequences, up to `length` bytes long: each is what is left to read. -/
def remainders (length : Nat) (seqs : List ByteRanges) : List (List ByteRanges) :=
  match length with
  | 0 => []
  | length + 1 =>
    if seqs.all List.isEmpty then []
    else seqs :: (byFirst seqs).flatMap fun group => remainders length (group.map List.tail)

/-- The beginnings of a sequence that are not empty. -/
def beginnings (seq : ByteRanges) : List ByteRanges :=
  (List.range seq.length).map fun n => seq.take (n + 1)

/-- The weight of a set. Forwards, states with the same remainder are one; backwards, those with the
same beginning. -/
def setWeight (dir : Direction) (s : Ranges) : Nat :=
  if s.all fun r => r.2 < 0x80 then stateWeight + listWeight s.length
  else
    let seqs := s.flatMap byteRanges
    match dir with
    | .forward =>
      (eachOnce (remainders 4 seqs)).foldl (fun n seqs => n + listWeight (byFirst seqs).length)
        stateWeight
    | .backward =>
      stateWeight + branchWeight seqs.length +
        stateWeight * (eachOnce (seqs.flatMap beginnings)).length

/-! ## Choices between texts -/

/-- The bytes of a piece that reads given characters only. -/
def literalBytes? : Piece → Option (List Nat)
  | .chars [(first, last)] => if first = last then some (utf8Bytes first) else none
  | .seq (.chars [(first, last)]) rest =>
    if first = last then (literalBytes? rest).map (utf8Bytes first ++ ·) else none
  | _ => none

/-- Texts in the order of a choice, cut into stretches behind each text that ends at once. -/
def stretches (texts : List (List Nat)) : List (List (List Nat)) :=
  match texts with
  | [] => [[]]
  | [] :: rest => [] :: stretches rest
  | text :: rest =>
    match stretches rest with
    | [] => [[text]]
    | s :: ss => (text :: s) :: ss

/-- The tails of the texts that start with each byte, by the first occurrence of the byte. -/
def tailsByFirst (texts : List (List Nat)) : List (List (List Nat)) :=
  (eachOnce (texts.filterMap List.head?)).map fun byte =>
    texts.filterMap fun text => if text.head? = some byte then some text.tail else none

/-- The sum of some weights. -/
def total (weights : List Nat) : Nat :=
  weights.foldl (· + ·) 0

/-- The weight of the tree that reads one of some texts, which are shorter than `length` bytes. What
ends at once is noted once only, and a state with nothing left to read is the common end. -/
def treeWeight (length : Nat) (texts : List (List Nat)) : Nat :=
  match length with
  | 0 => 0
  | length + 1 =>
    if texts.all List.isEmpty then 0
    else
      let longer := texts.dropWhile List.isEmpty
      let texts := if longer.length < texts.length then [] :: longer else texts
      let groups := (stretches texts).map tailsByFirst
      let listed := groups.filter fun g => !g.isEmpty
      branchWeight (listed.length + (groups.length - 1)) +
        total (listed.map fun g => if g.length = 1 then stateWeight else listWeight g.length) +
        total (listed.flatten.map (treeWeight length))

/-- The weight of a choice between texts. -/
def textsWeight (dir : Direction) (texts : List (List Nat)) : Nat :=
  let texts := match dir with
    | .forward => texts
    | .backward => texts.map List.reverse
  stateWeight + treeWeight (texts.foldl (fun n text => max n text.length) 0 + 1) texts

/-! ## Pieces -/

/-- The weight of a repetition of something with a weight. -/
def timesWeight (isSolid : Bool) (weight least : Nat) (most : Option Nat) : Nat :=
  match least, most with
  | 0, some 1 => branchWeight 2 + weight + stateWeight
  | 0, none =>
    if isSolid then branchWeight 2 + weight else 2 * branchWeight 2 + weight + stateWeight
  | least, none => least * weight + branchWeight 2
  | least, some most =>
    if least = most then least * weight
    else
      (if least = 0 then stateWeight else least * weight) + stateWeight +
        (most - least) * (branchWeight 2 + weight)

/-- The weight of a piece. The further branches of a choice are weighed with `isFurther`: they share
the states at which the choice starts and ends. -/
def Piece.weight (dir : Direction) (isFurther : Bool) : Piece → Nat
  | empty | place _ => stateWeight
  | chars s =>
    match literalBytes? (chars s) with
    | some bytes => stateWeight * bytes.length
    | none => setWeight dir s
  | seq a b => a.weight dir false + b.weight dir false
  | alt a b =>
    match (alt a b).branches.mapM literalBytes?, isFurther with
    | some texts, false => textsWeight dir texts
    | _, _ =>
      (if isFurther then 0 else branchWeight 1 + stateWeight) + 4 + a.weight dir false +
        b.weight dir true
  | times a least most => timesWeight a.isSolid (a.weight dir false) least most
  | capture _ a => a.weight dir false

/-- Is a match bound to the end of the text from which it is read? -/
def Piece.isBound (dir : Direction) : Piece → Bool
  | empty | chars _ => false
  | place p =>
    match dir with
    | .forward => p == .textStart
    | .backward => p == .textEnd
  | seq a b =>
    match dir with
    | .forward => a.isBound dir || (a.isBlank && b.isBound dir)
    | .backward => b.isBound dir || (b.isBlank && a.isBound dir)
  | alt a b => a.isBound dir && b.isBound dir
  | times a least _ => least != 0 && a.isBound dir
  | capture _ a => a.isBound dir

/-! ## Automata -/

/-- The weight of the automaton for some pieces at once. A match that is not bound may start behind
any bytes. -/
def automatonWeight (dir : Direction) (ps : List Piece) : Nat :=
  let start :=
    if ps.all (Piece.isBound dir) then stateWeight
    else timesWeight true (stateWeight + listWeight 1) 0 none
  let fork := match ps.length with
    | 0 => stateWeight
    | 1 => 0
    | n => branchWeight n + stateWeight
  start + fork + total (ps.map fun p => p.weight dir false + stateWeight)

/-- How heavy an automaton may be. -/
def weightLimit : Nat :=
  10485760

/-- Are both automata for some patterns light enough? -/
def fits (ts : List Term) : Bool :=
  let ps := ts.map Term.piece
  automatonWeight .forward ps ≤ weightLimit && automatonWeight .backward ps ≤ weightLimit

end Tablewright.Pattern

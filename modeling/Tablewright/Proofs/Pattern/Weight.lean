import Mathlib.Algebra.GroupWithZero.Nat
import Mathlib.Algebra.Order.BigOperators.Group.List
import Mathlib.Algebra.Order.Group.Nat
import Mathlib.Data.List.Perm.Subperm
import Mathlib.Data.List.Sort
import Tablewright.Pattern.Engine

/-! # Bounds for the weight of patterns

How heavy patterns are depends on sets that are put in order, and on states that are counted once if they
are the same. `Term.isLight` asks for no more than insertion and plain counting, so that it can be
evaluated in a proof: sets are put in order by insertion (`CharSet.inserted`), and states are counted as
often as they come (`setBound` for sets, `textsBound` for choices between texts). The weight of a piece
grows with that of sets and of choices (`Piece.weightBy_mono`).

* `setWeight_le`, `textsWeight_le`: what is counted once weighs no more.
* `fits_of_isLight`: patterns fit if there are not many, each of them light with everything counted as
  often as it comes. -/

namespace Tablewright.Pattern

open Unicode (ByteRanges byteRanges)

/-! ## Sets put in order by insertion -/

/-- A stable sort is a sort by insertion. -/
theorem mergeSort_eq_insertionSort {α : Type} {r : α → α → Prop} [DecidableRel r] [Std.Total r]
    [IsTrans α r] (xs : List α) :
    xs.mergeSort (fun a b => decide (r a b)) = xs.insertionSort r := by
  have htrans (a b c : α) (hab : decide (r a b) = true) (hbc : decide (r b c) = true) :
      decide (r a c) = true :=
    decide_eq_true (IsTrans.trans a b c (of_decide_eq_true hab) (of_decide_eq_true hbc))
  have htotal (a b : α) : (decide (r a b) || decide (r b a)) = true := by
    simpa using Std.Total.total a b
  induction xs with
  | nil => simp
  | cons x xs ih =>
      -- the first element comes behind the smaller ones, and in front of the others
      obtain ⟨smaller, others, hsort, hrest, hsmaller⟩ := List.mergeSort_cons htrans htotal x xs
      have hsorted := List.pairwise_mergeSort htrans htotal (x :: xs)
      rw [hsort] at hsorted
      have hothers : ∀ y ∈ others, r x y := fun y hy =>
        of_decide_eq_true (List.rel_of_pairwise_cons (List.pairwise_append.mp hsorted).2.1 hy)
      rw [List.insertionSort_cons, ← ih, hrest, hsort]
      clear hsort hrest hsorted
      induction smaller with
      | nil =>
          cases others with
          | nil => rfl
          | cons y others => exact (List.orderedInsert_cons_of_le r _ (hothers y List.mem_cons_self)).symm
      | cons y smaller ih =>
          obtain ⟨hy, hsmaller⟩ := List.forall_mem_cons.mp hsmaller
          have hnot : ¬ r x y := by simpa using hy
          rw [List.cons_append, List.cons_append, List.orderedInsert_of_not_le r _ hnot, ← ih hsmaller]

namespace Ranges

/-- Ranges put in order by insertion, and joined. -/
def inserted (ranges : List (Nat × Nat)) : Ranges :=
  (ranges.insertionSort fun a b => a.1 ≤ b.1).foldr (fun r rest => cover r.1 r.2 rest) []

/-- Insertion puts ranges in the order that sorting does. -/
theorem inserted_eq (ranges : List (Nat × Nat)) : inserted ranges = ordered ranges := by
  have : Std.Total fun a b : Nat × Nat => a.1 ≤ b.1 := ⟨fun a b => Nat.le_total a.1 b.1⟩
  have : IsTrans (Nat × Nat) fun a b => a.1 ≤ b.1 := ⟨fun _ _ _ => Nat.le_trans⟩
  rw [inserted, ordered, mergeSort_eq_insertionSort]

/-- The ranges of a class of characters, put in order by insertion. -/
def insertedClass (k : Unicode.CharClass) : Ranges :=
  let ascii := (List.range 0x80).filter fun n => k.ascii (Char.ofNat n)
  inserted (ascii.map (fun n => (n, n)) ++ (k.tables.flatMap fun table => table.flatMap ofSpan))

/-- The characters that two sets have in common, put in order by insertion. -/
def insertedInter (s t : Ranges) : Ranges :=
  compl (inserted (compl s ++ compl t))

end Ranges

/-- The ranges of a set, those of a property put in order by insertion. -/
def CharSet.inserted : CharSet → Ranges
  | property p => .insertedInter (.insertedClass p.charClass) (.compl (.insertedClass .latest))
  | s => s.ranges

/-- Insertion gives a set the ranges it has. -/
theorem CharSet.inserted_eq (s : CharSet) : s.inserted = s.ranges := by
  cases s with
  | property p =>
      rw [inserted, ranges, Ranges.insertedInter, Ranges.insertedClass, Ranges.insertedClass,
        Ranges.inserted_eq, Ranges.inserted_eq, Ranges.inserted_eq]
      rfl
  | none | range | compl | union | inter | folded => rfl

mutual

/-- The piece that a term comes to, given the ranges of sets. -/
def Term.pieceBy (ranges : CharSet → Ranges) : Term → Piece
  | .chars s _ => .chars (ranges s)
  | .place p => .place p
  | .switch => .empty
  | .times t least most => (t.pieceBy ranges).repeated least most
  | .group none t => t.pieceBy ranges
  | .group (some number) t => .capture number (t.pieceBy ranges)
  | .concat ts => .all (Term.piecesBy ranges ts)
  | .choice ts => .choice (Term.piecesBy ranges ts)

/-- The pieces of some terms, given the ranges of sets. -/
def Term.piecesBy (ranges : CharSet → Ranges) : List Term → List Piece
  | [] => []
  | t :: ts => t.pieceBy ranges :: Term.piecesBy ranges ts

end

mutual

/-- With the ranges of the sets, a term comes to its piece. -/
theorem Term.pieceBy_ranges (t : Term) : t.pieceBy CharSet.ranges = t.piece := by
  cases t with
  | chars s nesting => rw [Term.pieceBy, Term.piece]
  | place p => rw [Term.pieceBy, Term.piece]
  | switch => rw [Term.pieceBy, Term.piece]
  | times t least most => rw [Term.pieceBy, Term.piece, Term.pieceBy_ranges t]
  | group number t =>
      cases number with
      | none => rw [Term.pieceBy, Term.piece, Term.pieceBy_ranges t]
      | some number => rw [Term.pieceBy, Term.piece, Term.pieceBy_ranges t]
  | concat ts => rw [Term.pieceBy, Term.piece, Term.piecesBy_ranges ts]
  | choice ts => rw [Term.pieceBy, Term.piece, Term.piecesBy_ranges ts]

/-- With the ranges of the sets, terms come to their pieces. -/
theorem Term.piecesBy_ranges (ts : List Term) : Term.piecesBy CharSet.ranges ts = Term.pieces ts := by
  cases ts with
  | nil => rw [Term.piecesBy, Term.pieces]
  | cons t ts => rw [Term.piecesBy, Term.pieces, Term.pieceBy_ranges t, Term.piecesBy_ranges ts]

end

/-! ## Counting once -/

/-- The total of some weights is their sum. -/
theorem total_eq_sum (weights : List Nat) : total weights = weights.sum :=
  List.sum_eq_foldl.symm

variable {α β : Type}

/-- Nothing is counted that does not come, and nothing twice. -/
theorem subperm_eachOnce [BEq α] [Hashable α] [LawfulBEq α] (xs : List α) :
    (eachOnce xs).Subperm xs := by
  refine List.subperm_of_subset ?_ fun x hx => by simpa [eachOnce] using hx
  exact Std.HashSet.distinct_toList.imp fun h => by simpa using h

/-- Fewer elements weigh less. -/
theorem sum_map_le_of_subperm {xs ys : List α} (h : xs.Subperm ys) {f g : α → Nat}
    (hfg : ∀ x ∈ ys, f x ≤ g x) : (xs.map f).sum ≤ (ys.map g).sum := by
  obtain ⟨zs, hperm, hsub⟩ := h
  calc (xs.map f).sum = (zs.map f).sum := (hperm.map f).sum_eq.symm
    _ ≤ (ys.map f).sum := (hsub.map f).sum_le_sum fun n _ => Nat.zero_le n
    _ ≤ (ys.map g).sum := List.sum_le_sum hfg

/-! ## Sets -/

/-- The weight of a set if states are counted as often as they come. -/
def setBound (dir : Direction) (s : Ranges) : Nat :=
  if s.all fun r => r.2 < 0x80 then stateWeight + listWeight s.length
  else
    let seqs := s.flatMap byteRanges
    match dir with
    | .forward =>
      stateWeight + total ((remainders 4 seqs).map fun seqs => listWeight (byFirst seqs).length)
    | .backward =>
      stateWeight + branchWeight seqs.length + stateWeight * (seqs.flatMap beginnings).length

/-- A set weighs no more than it does with each state counted as often as it comes. -/
theorem setWeight_le (dir : Direction) (s : Ranges) : setWeight dir s ≤ setBound dir s := by
  rw [setWeight, setBound]
  split
  · exact Nat.le_refl _
  · cases dir with
    | forward =>
        -- what is summed on the way is the sum of the weights
        have hfold (xs : List (List ByteRanges)) (n : Nat) :
            xs.foldl (fun n seqs => n + listWeight (byFirst seqs).length) n =
              n + (xs.map fun seqs => listWeight (byFirst seqs).length).sum := by
          induction xs generalizing n with
          | nil => rfl
          | cons x xs ih => rw [List.foldl_cons, ih, List.map_cons, List.sum_cons, Nat.add_assoc]
        dsimp only
        rw [hfold, total_eq_sum]
        exact Nat.add_le_add_left (sum_map_le_of_subperm (subperm_eachOnce _) fun _ _ => Nat.le_refl _) _
    | backward =>
        exact Nat.add_le_add_left
          (Nat.mul_le_mul_left _ (subperm_eachOnce _).length_le) _

/-! ## Choices between texts -/

/-- The weight of a state of the tree with the groups of tails that it leads to. -/
def groupsWeight (weight : List (List Nat) → Nat) (groups : List (List (List (List Nat)))) : Nat :=
  let listed := groups.filter fun g => !g.isEmpty
  branchWeight (listed.length + (groups.length - 1)) +
    total (listed.map fun g => if g.length = 1 then stateWeight else listWeight g.length) +
    total (listed.flatten.map weight)

/-- The tails of the texts by their first bytes, each of which is taken as often as it comes. -/
def tailsByFirstBound (texts : List (List Nat)) : List (List (List Nat)) :=
  (texts.filterMap List.head?).map fun byte =>
    texts.filterMap fun text => if text.head? = some byte then some text.tail else none

/-- The weight of the tree that reads one of some texts, with bytes taken as often as they come. -/
def treeBound (length : Nat) (texts : List (List Nat)) : Nat :=
  match length with
  | 0 => 0
  | length + 1 =>
    if texts.all List.isEmpty then 0
    else
      let longer := texts.dropWhile List.isEmpty
      let texts := if longer.length < texts.length then [] :: longer else texts
      groupsWeight (treeBound length) ((stretches texts).map tailsByFirstBound)

/-- Each group of tails is among those taken as often as their first byte comes. -/
theorem subperm_tailsByFirst (texts : List (List Nat)) :
    (tailsByFirst texts).Subperm (tailsByFirstBound texts) := by
  obtain ⟨bytes, hperm, hsub⟩ := subperm_eachOnce (texts.filterMap List.head?)
  exact ⟨_, hperm.map _, hsub.map _⟩

/-- There are tails either way, or there are none. -/
theorem isEmpty_tailsByFirst (texts : List (List Nat)) :
    (tailsByFirst texts).isEmpty = (tailsByFirstBound texts).isEmpty := by
  have hmem (byte : Nat) :
      byte ∈ eachOnce (texts.filterMap List.head?) ↔ byte ∈ texts.filterMap List.head? := by
    simp [eachOnce]
  rw [Bool.eq_iff_iff, List.isEmpty_iff, List.isEmpty_iff, tailsByFirst, tailsByFirstBound,
    List.map_eq_nil_iff, List.map_eq_nil_iff, List.eq_nil_iff_forall_not_mem,
    List.eq_nil_iff_forall_not_mem]
  exact forall_congr' fun byte => not_congr (hmem byte)

/-- More tails in each group weigh no less. -/
theorem groupsWeight_le {tails tails' : List (List Nat) → List (List (List Nat))}
    {weight weight' : List (List Nat) → Nat} (hsub : ∀ texts, (tails texts).Subperm (tails' texts))
    (hempty : ∀ texts, (tails texts).isEmpty = (tails' texts).isEmpty)
    (hweight : ∀ texts, weight texts ≤ weight' texts) (ss : List (List (List Nat))) :
    groupsWeight weight (ss.map tails) ≤ groupsWeight weight' (ss.map tails') := by
  -- the same stretches have tails
  have hlisted : (ss.map tails).filter (fun g => !g.isEmpty) =
      (ss.filter fun s => !(tails' s).isEmpty).map tails := by
    rw [List.filter_map]
    congr 1
    refine List.filter_congr fun s _ => ?_
    rw [Function.comp_apply, hempty]
  have hlisted' : (ss.map tails').filter (fun g => !g.isEmpty) =
      (ss.filter fun s => !(tails' s).isEmpty).map tails' := by
    rw [List.filter_map]
    rfl
  have hsize {n m : Nat} (h : n ≤ m) :
      (if n = 1 then stateWeight else listWeight n) ≤
        (if m = 1 then stateWeight else listWeight m) := by
    simp only [listWeight, stateWeight]
    split <;> split <;> omega
  simp only [groupsWeight, hlisted, hlisted', List.length_map, total_eq_sum, List.map_flatten,
    List.sum_flatten, List.map_map]
  refine Nat.add_le_add (Nat.add_le_add_left ?_ _) ?_
  · exact List.sum_le_sum fun s _ => hsize (hsub s).length_le
  · exact List.sum_le_sum fun s _ => sum_map_le_of_subperm (hsub s) fun texts _ => hweight texts

/-- A tree weighs no more than it does with each byte taken as often as it comes. -/
theorem treeWeight_le (length : Nat) (texts : List (List Nat)) :
    treeWeight length texts ≤ treeBound length texts := by
  induction length generalizing texts with
  | zero => exact Nat.le_refl 0
  | succ length ih =>
      rw [treeWeight, treeBound]
      split
      · exact Nat.le_refl 0
      · exact groupsWeight_le subperm_tailsByFirst isEmpty_tailsByFirst ih _

/-- The weight of a choice between texts, with bytes taken as often as they come. -/
def textsBound (dir : Direction) (texts : List (List Nat)) : Nat :=
  let texts := match dir with
    | .forward => texts
    | .backward => texts.map List.reverse
  stateWeight + treeBound (texts.foldl (fun n text => max n text.length) 0 + 1) texts

/-- A choice between texts weighs no more than it does with each byte taken as often as it comes. -/
theorem textsWeight_le (dir : Direction) (texts : List (List Nat)) :
    textsWeight dir texts ≤ textsBound dir texts :=
  Nat.add_le_add_left (treeWeight_le _ _) _

/-! ## Pieces -/

/-- The weight of a piece, given that of sets and of choices between texts. -/
def Piece.weightBy (set : Direction → Ranges → Nat) (texts : Direction → List (List Nat) → Nat)
    (dir : Direction) (isFurther : Bool) : Piece → Nat
  | empty | place _ => stateWeight
  | chars s =>
    match literalBytes? (chars s) with
    | some bytes => stateWeight * bytes.length
    | none => set dir s
  | seq a b => a.weightBy set texts dir false + b.weightBy set texts dir false
  | alt a b =>
    match (alt a b).branches.mapM literalBytes?, isFurther with
    | some ts, false => texts dir ts
    | _, _ =>
      (if isFurther then 0 else branchWeight 1 + stateWeight) + 4 + a.weightBy set texts dir false +
        b.weightBy set texts dir true
  | times a least most => timesWeight a.isSolid (a.weightBy set texts dir false) least most
  | capture _ a => a.weightBy set texts dir false

/-- Given the weights of sets and of choices between texts, a piece has its own weight. -/
theorem Piece.weightBy_eq (dir : Direction) (isFurther : Bool) (p : Piece) :
    p.weightBy setWeight textsWeight dir isFurther = p.weight dir isFurther := by
  induction p generalizing isFurther with
  | empty | place | chars => rfl
  | seq a b iha ihb => rw [weightBy, weight, iha, ihb]
  | alt a b iha ihb =>
      cases hts : (alt a b).branches.mapM literalBytes? with
      | none => simp only [weightBy, weight, hts, iha, ihb]
      | some ts => cases isFurther <;> simp only [weightBy, weight, hts, iha, ihb]
  | times a least most ih => rw [weightBy, weight, ih]
  | capture number a ih => rw [weightBy, weight, ih]

/-- Repeating what weighs no less weighs no less. -/
theorem timesWeight_mono (isSolid : Bool) {weight weight' : Nat} (h : weight ≤ weight') (least : Nat)
    (most : Option Nat) :
    timesWeight isSolid weight least most ≤ timesWeight isSolid weight' least most := by
  have hleast := Nat.mul_le_mul_left least h
  unfold timesWeight
  split
  · omega
  · split <;> omega
  · omega
  · rename_i most _
    have hmore := Nat.mul_le_mul_left (most - least) (Nat.add_le_add_left h (branchWeight 2))
    split
    · exact hleast
    · split <;> omega

/-- **The weight of a piece grows with that of sets and of choices.** -/
theorem Piece.weightBy_mono {set set' : Direction → Ranges → Nat}
    {texts texts' : Direction → List (List Nat) → Nat} (hset : ∀ dir s, set dir s ≤ set' dir s)
    (htexts : ∀ dir ts, texts dir ts ≤ texts' dir ts) (dir : Direction) (isFurther : Bool) (p : Piece) :
    p.weightBy set texts dir isFurther ≤ p.weightBy set' texts' dir isFurther := by
  induction p generalizing isFurther with
  | empty | place => exact Nat.le_refl _
  | chars s =>
      rw [weightBy, weightBy]
      split
      · exact Nat.le_refl _
      · exact hset dir s
  | seq a b iha ihb => exact Nat.add_le_add (iha false) (ihb false)
  | alt a b iha ihb =>
      have hbranches := Nat.add_le_add (iha false) (ihb true)
      -- a choice between texts only is weighed as a whole
      cases hts : (alt a b).branches.mapM literalBytes? with
      | none =>
          simp only [weightBy, hts]
          omega
      | some ts =>
          cases isFurther with
          | false =>
              simp only [weightBy, hts]
              exact htexts dir ts
          | true =>
              simp only [weightBy, hts]
              omega
  | times a least most ih => exact timesWeight_mono _ (ih false) least most
  | capture number a ih => exact ih false

/-! ## Patterns -/

/-- The weight of an automaton for light pieces grows with their number. -/
theorem automatonWeight_le {dir : Direction} {ps : List Piece} {limit : Nat}
    (h : ∀ p ∈ ps, p.weight dir false ≤ limit) :
    automatonWeight dir ps ≤ 176 + ps.length * (limit + 36) := by
  have htotal : total (ps.map fun p => p.weight dir false + stateWeight) ≤
      ps.length * (limit + stateWeight) := by
    have hsum := List.sum_le_card_nsmul (ps.map fun p => p.weight dir false + stateWeight)
      (limit + stateWeight) (List.forall_mem_map.mpr fun p hp => Nat.add_le_add_right (h p hp) _)
    rwa [List.length_map, ← total_eq_sum] at hsum
  calc automatonWeight dir ps
      ≤ 112 + (64 + 4 * ps.length) + ps.length * (limit + stateWeight) := by
        rw [automatonWeight]
        refine Nat.add_le_add (Nat.add_le_add ?_ ?_) htotal
        · split <;> decide
        · simp only [branchWeight, stateWeight]
          split <;> omega
    _ = 176 + ps.length * (limit + 36) := by
        simp only [stateWeight, Nat.mul_add]
        omega

/-- What a light pattern may weigh. -/
def lightLimit : Nat :=
  100000

/-- Is a pattern light with everything counted as often as it comes? -/
def Term.isLight (t : Term) : Bool :=
  let p := t.pieceBy CharSet.inserted
  p.weightBy setBound textsBound .forward false ≤ lightLimit &&
    p.weightBy setBound textsBound .backward false ≤ lightLimit

/-- What is light with everything counted as often as it comes weighs no more than the limit in either
direction. -/
theorem Term.weight_le_of_isLight {t : Term} (h : t.isLight = true) (dir : Direction) :
    t.piece.weight dir false ≤ lightLimit := by
  have hpiece : t.pieceBy CharSet.inserted = t.piece := by
    rw [funext CharSet.inserted_eq, Term.pieceBy_ranges]
  have hbound (dir : Direction) :
      t.piece.weight dir false ≤ t.piece.weightBy setBound textsBound dir false := by
    rw [← Piece.weightBy_eq]
    exact Piece.weightBy_mono setWeight_le textsWeight_le dir false t.piece
  rw [isLight, hpiece, Bool.and_eq_true, decide_eq_true_eq, decide_eq_true_eq] at h
  cases dir with
  | forward => exact (hbound .forward).trans h.1
  | backward => exact (hbound .backward).trans h.2

/-- **A hundred light patterns fit.** -/
theorem fits_of_isLight {ts : List Term} (hlength : ts.length ≤ 100)
    (h : ∀ t ∈ ts, t.isLight = true) : fits ts = true := by
  have hweight (dir : Direction) : automatonWeight dir (ts.map Term.piece) ≤ weightLimit := by
    have hpieces : ∀ p ∈ ts.map Term.piece, p.weight dir false ≤ lightLimit :=
      List.forall_mem_map.mpr fun t ht => Term.weight_le_of_isLight (h t ht) dir
    refine (automatonWeight_le hpieces).trans ?_
    rw [List.length_map]
    simp only [lightLimit, weightLimit]
    omega
  rw [fits, Bool.and_eq_true, decide_eq_true_eq, decide_eq_true_eq]
  exact ⟨hweight .forward, hweight .backward⟩

end Tablewright.Pattern

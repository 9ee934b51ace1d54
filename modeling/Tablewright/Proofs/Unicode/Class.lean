import Mathlib.Data.List.Chain
import Tablewright.Unicode.Class

/-! # Letters, digits and what is taken for them

What is alphabetic need not be a letter, and a number need not be a decimal digit. The tables of letters and
of decimal digits have no code point in common with the tables of what else is alphabetic or a number (the
lookalikes). To see this, all of them are merged into one list, in which each span ends before the next one
starts (`isChain_nameSpans`); spans that are apart there are apart in any other order (`pairwise_nameSpans`).

* `isLetter_iff`: a letter is what is alphabetic and no lookalike.
* `isDecimalDigit_iff`: a decimal digit is what is a number and no lookalike. -/

namespace Tablewright.Unicode

/-! ## Spans that are apart -/

namespace Span

/-- Two spans have no code point in common. -/
def Apart (s t : Span) : Prop :=
  ∀ n, s.holds n = true → t.holds n = false

/-- Being apart is symmetric. -/
theorem Apart.symm {s t : Span} (h : s.Apart t) : t.Apart s := by
  intro n ht
  by_contra hs
  rw [Bool.not_eq_false] at hs
  rw [h n hs] at ht
  contradiction

/-- One span ends before another starts, and the other is not empty. -/
def Precedes (s t : Span) : Prop :=
  s.hi < t.lo ∧ t.lo ≤ t.hi

instance : DecidableRel Precedes := fun _ _ =>
  inferInstanceAs (Decidable (_ ∧ _))

instance : Trans Precedes Precedes Precedes where
  trans := fun hst htu => ⟨Nat.lt_trans (Nat.lt_of_lt_of_le hst.1 hst.2) htu.1, htu.2⟩

/-- Spans of which one precedes the other are apart. -/
theorem Precedes.apart {s t : Span} (h : s.Precedes t) : s.Apart t := by
  intro n hs
  have hbefore : n ≤ s.hi := by
    simp only [holds, Bool.and_eq_true, decide_eq_true_eq] at hs
    exact hs.1.2
  have hnot : ¬ t.lo ≤ n := by
    have := h.1
    omega
  simp [holds, hnot]

/-- Put a span in front of the first one of a list that does not start before it; `rest` goes on from
there. -/
def mergeInto (s : Span) (rest : List Span → List Span) : List Span → List Span
  | [] => s :: rest []
  | t :: ts => if s.lo ≤ t.lo then s :: rest (t :: ts) else t :: s.mergeInto rest ts

end Span

/-- Merge two lists of spans by where the spans start. -/
def mergeSpans : List Span → List Span → List Span
  | [], ts => ts
  | s :: ss, ts => s.mergeInto (mergeSpans ss) ts

/-- Merging a span into others loses none and adds none. -/
theorem Span.mergeInto_perm (s : Span) {rest : List Span → List Span} {ss : List Span}
    (hrest : ∀ ts, (rest ts).Perm (ss ++ ts)) (ts : List Span) :
    (s.mergeInto rest ts).Perm (s :: (ss ++ ts)) := by
  induction ts with
  | nil => exact (hrest []).cons s
  | cons t ts ih =>
      rw [mergeInto]
      split
      · exact (hrest (t :: ts)).cons s
      · -- the span is put in further behind
        have hmiddle : (t :: (s :: ss ++ ts)).Perm (s :: ss ++ t :: ts) :=
          List.perm_middle.symm
        exact (ih.cons t).trans hmiddle

/-- Merging leaves nothing out and brings nothing in. -/
theorem mergeSpans_perm (ss ts : List Span) : (mergeSpans ss ts).Perm (ss ++ ts) := by
  induction ss generalizing ts with
  | nil => exact .refl ts
  | cons s ss ih => exact s.mergeInto_perm ih ts

/-- Spans of which each one ends before the next starts are apart, also in any other order. -/
theorem pairwise_apart_of_isChain {ss ts : List Span} (hperm : ts.Perm ss)
    (h : ts.IsChain Span.Precedes) : ss.Pairwise Span.Apart := by
  have hpairwise : ts.Pairwise Span.Precedes := List.isChain_iff_pairwise.mp h
  exact (hperm.pairwise_iff Span.Apart.symm).mp (hpairwise.imp Span.Precedes.apart)

/-- A character is not in two tables whose spans are apart. -/
theorem inTable_eq_false {ss ts : List Span} (h : ∀ s ∈ ss, ∀ t ∈ ts, s.Apart t) {c : Char}
    (hc : inTable ss c = true) : inTable ts c = false := by
  obtain ⟨s, hs, hholds⟩ := List.any_eq_true.mp hc
  rw [inTable, List.any_eq_false]
  intro t ht
  rw [h s hs t ht c.toNat hholds]
  exact Bool.false_ne_true

/-! ## Letters, digits and lookalikes -/

/-- Numbers that are no decimal digits, and what is alphabetic but no letter: `²`, `Ⅷ`, `ⓐ`, and the marks
that spell vowels. -/
def CharClass.lookalike : CharClass :=
  ⟨fun _ => false, [letterNumberSpans, otherNumberSpans, otherAlphabeticSpans]⟩

/-- Does the character only look like a letter or a digit? -/
def isLookalike : Char → Bool :=
  CharClass.lookalike.holds

/-- No ASCII character is a lookalike. -/
theorem isLookalike_of_isAscii {c : Char} (h : isAscii c = true) : isLookalike c = false :=
  CharClass.holds_of_isAscii h

/-- The tables of the lookalikes, merged. -/
def lookalikeSpans : List Span :=
  mergeSpans letterNumberSpans (mergeSpans otherNumberSpans otherAlphabeticSpans)

/-- The merged spans of lookalikes are those of the tables. -/
theorem lookalikeSpans_perm : lookalikeSpans.Perm CharClass.lookalike.tables.flatten := by
  have hnumbers := mergeSpans_perm otherNumberSpans otherAlphabeticSpans
  have hall := (mergeSpans_perm letterNumberSpans _).trans (hnumbers.append_left letterNumberSpans)
  simpa [lookalikeSpans, CharClass.lookalike] using hall

/-- **In the merged tables each span ends before the next starts.** -/
theorem isChain_nameSpans :
    (mergeSpans letterSpans (mergeSpans decimalDigitSpans lookalikeSpans)).IsChain Span.Precedes := by
  decide +kernel

/-- The tables that make up the alphanumeric characters are apart. -/
theorem pairwise_nameSpans :
    (letterSpans ++ (decimalDigitSpans ++ CharClass.lookalike.tables.flatten)).Pairwise Span.Apart := by
  have hdigits := (mergeSpans_perm decimalDigitSpans lookalikeSpans).trans
    (lookalikeSpans_perm.append_left decimalDigitSpans)
  have hletters := (mergeSpans_perm letterSpans _).trans (hdigits.append_left letterSpans)
  exact pairwise_apart_of_isChain hletters isChain_nameSpans

/-- A class with one table is left of a class with more when the lookalikes are taken out, if the other
tables hold lookalikes only and its own table holds none. -/
theorem CharClass.holds_iff {rule : Char → Bool} {own : List Span} {more : List (List Span)}
    (hmore : ∀ table ∈ more, table ∈ lookalike.tables)
    (hapart : ∀ s ∈ own, ∀ t ∈ lookalike.tables.flatten, s.Apart t) {c : Char} :
    (CharClass.mk rule [own]).holds c = true ↔
      (CharClass.mk rule (own :: more)).holds c = true ∧ isLookalike c = false := by
  cases hascii : isAscii c with
  | true =>
      rw [holds_of_isAscii hascii, holds_of_isAscii hascii, isLookalike_of_isAscii hascii,
        and_iff_left rfl]
  | false =>
      have hlook : isLookalike c = lookalike.tables.any fun table => inTable table c :=
        if_neg (by simp [hascii])
      simp only [holds, hascii, hlook, Bool.false_eq_true, if_false, List.any_cons, List.any_nil,
        Bool.or_false, Bool.or_eq_true]
      constructor
      · intro hown
        refine ⟨.inl hown, List.any_eq_false.mpr fun table htable => ?_⟩
        have hother : inTable table c = false := inTable_eq_false
          (fun s hs t ht => hapart s hs t (List.mem_flatten_of_mem htable ht)) hown
        simp [hother]
      · rintro ⟨hown | hmored, hnone⟩
        · exact hown
        · -- the character would be in a table of lookalikes
          obtain ⟨table, htable, hmem⟩ := List.any_eq_true.mp hmored
          exact absurd hmem (List.any_eq_false.mp hnone table (hmore table htable))

/-- **A letter is what is alphabetic and no lookalike.** -/
theorem isLetter_iff {c : Char} :
    isLetter c = true ↔ isAlphabetic c = true ∧ isLookalike c = false := by
  refine CharClass.holds_iff ?_ ?_
  · simp [CharClass.lookalike]
  · obtain ⟨-, -, hapart⟩ := List.pairwise_append.mp pairwise_nameSpans
    exact fun s hs t ht => hapart s hs t (List.mem_append_right _ ht)

/-- **A decimal digit is what is a number and no lookalike.** -/
theorem isDecimalDigit_iff {c : Char} :
    isDecimalDigit c = true ↔ isNumeric c = true ∧ isLookalike c = false := by
  refine CharClass.holds_iff ?_ ?_
  · simp [CharClass.lookalike]
  · obtain ⟨-, hdigits, -⟩ := List.pairwise_append.mp pairwise_nameSpans
    exact (List.pairwise_append.mp hdigits).2.2

end Tablewright.Unicode

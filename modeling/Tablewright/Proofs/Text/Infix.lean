import Mathlib.Data.List.Infix
import Tablewright.Text.Quoted

/-! # Words within a text

A word that stands in two texts one after the other stands in one of them, unless it starts in the first
and ends in the second. `RunsInto` says that the end of one text is the beginning of another; where no end of
the word begins the second text, or no end of the first text begins the word, there is no such place.

* `infix_append_iff_of_word`, `infix_append_iff_of_front`: a word within two texts.
* `infix_of_infix_escape`: a word within a text that is written with escapes stands in the text itself. -/

namespace Tablewright.Text

variable {w a b s : List Char}

/-- Some end of a text, not an empty one, is a beginning of another. -/
def RunsInto (a b : List Char) : Prop :=
  ∃ v ∈ a.tails, v ≠ [] ∧ v <+: b

instance (a b : List Char) : Decidable (RunsInto a b) :=
  inferInstanceAs (Decidable (∃ _ ∈ _, _))

/-- One text runs into another exactly if an end of it that is not empty begins the other. -/
theorem runsInto_iff : RunsInto a b ↔ ∃ v, v <:+ a ∧ v ≠ [] ∧ v <+: b := by
  simp only [RunsInto, List.mem_tails]

/-- No text runs into the empty one. -/
theorem not_runsInto_nil (a : List Char) : ¬RunsInto a [] := by
  rintro ⟨v, -, hne, hbegins⟩
  exact hne (List.prefix_nil.1 hbegins)

/-- Nothing runs into a text whose beginning differs from all its ends. -/
theorem not_runsInto_append (h : ∀ v ∈ a.tails, v ≠ [] → ¬v <+: b ∧ ¬b <+: v) (rest : List Char) :
    ¬RunsInto a (b ++ rest) := by
  rintro ⟨v, hv, hne, hbegins⟩
  obtain ⟨hshort, hlong⟩ := h v hv hne
  exact (List.prefix_or_prefix_of_prefix hbegins (List.prefix_append b rest)).elim hshort hlong

/-! ## Two texts one after the other -/

/-- **A word that does not run into a text** stands in it or in what is in front of it. -/
theorem infix_append_iff_of_word (h : ¬RunsInto w b) : w <:+: a ++ b ↔ w <:+: a ∨ w <:+: b := by
  rw [List.infix_append_iff, ← or_assoc]
  refine or_iff_left_of_imp ?_
  rintro ⟨front, back, rfl, hfront, hback⟩
  by_cases hne : back = []
  · rw [hne, List.append_nil]
    exact Or.inl hfront.isInfix
  · exact absurd (runsInto_iff.2 ⟨back, List.suffix_append front back, hne, hback⟩) h

/-- **A word that a text does not run into** stands in it or in what is behind it. -/
theorem infix_append_iff_of_front (h : ¬RunsInto a w) : w <:+: a ++ b ↔ w <:+: a ∨ w <:+: b := by
  rw [List.infix_append_iff, ← or_assoc]
  refine or_iff_left_of_imp ?_
  rintro ⟨front, back, rfl, hfront, hback⟩
  by_cases hne : front = []
  · rw [hne, List.nil_append]
    exact Or.inr hback.isInfix
  · exact absurd (runsInto_iff.2 ⟨front, hfront, hne, List.prefix_append front back⟩) h

/-! ## Texts whose characters are rewritten -/

/-- A rewriting of characters leaves a word alone: it keeps each character, or turns it into others that are
not in the word. -/
def LeavesAlone (f : Char → List Char) (w : List Char) : Prop :=
  ∀ c, f c = [c] ∨ f c ≠ [] ∧ ∀ d ∈ f c, d ∉ w

/-- What leaves a text alone leaves the text behind its first character alone. -/
theorem LeavesAlone.of_cons {f : Char → List Char} {d : Char} (h : LeavesAlone f (d :: w)) :
    LeavesAlone f w :=
  fun c => (h c).imp_right fun ⟨hne, hmem⟩ =>
    ⟨hne, fun e he hw => hmem e he (List.mem_cons_of_mem d hw)⟩

/-- A text that is left alone begins the rewritten text only if it begins the original. -/
theorem prefix_of_prefix_flatMap {f : Char → List Char} (hf : LeavesAlone f w)
    (h : w <+: s.flatMap f) : w <+: s := by
  induction s generalizing w with
  | nil => exact h
  | cons c s ih =>
      cases w with
      | nil => exact List.nil_prefix
      | cons d w =>
          rw [List.flatMap_cons] at h
          rcases hf c with hc | ⟨hne, hmem⟩
          · -- the character stands for itself, so it is the first one of the word
            rw [hc, List.singleton_append, List.cons_prefix_cons] at h
            obtain ⟨rfl, h⟩ := h
            exact List.cons_prefix_cons.2 ⟨rfl, ih hf.of_cons h⟩
          · -- what the character is turned into is not in the word
            obtain ⟨e, es, hes⟩ := List.exists_cons_of_ne_nil hne
            rw [hes, List.cons_append, List.cons_prefix_cons] at h
            have he : e ∈ f c := by rw [hes]; exact List.mem_cons_self
            exact absurd (h.1 ▸ List.mem_cons_self) (hmem e he)

/-- **A word that a rewriting of characters leaves alone** stands in what comes out only if it stands in what
goes in. -/
theorem infix_of_infix_flatMap {f : Char → List Char} (hf : LeavesAlone f w)
    (h : w <:+: s.flatMap f) : w <:+: s := by
  induction s with
  | nil => exact h
  | cons c s ih =>
      rw [List.flatMap_cons] at h
      rcases hf c with hc | ⟨hne, hmem⟩
      · -- a character that is kept: the word begins at it or stands behind
        rw [hc, List.singleton_append] at h
        rcases List.infix_cons_iff.1 h with h | h
        · have hbegins : w <+: (c :: s).flatMap f := by
            rw [List.flatMap_cons, hc, List.singleton_append]
            exact h
          exact (prefix_of_prefix_flatMap hf hbegins).isInfix
        · exact (ih h).trans (List.suffix_cons c s).isInfix
      · -- what a character is rewritten to has no sign of the word, so the word cannot begin in it
        have hfront : ¬RunsInto (f c) w := by
          rw [runsInto_iff]
          rintro ⟨v, hends, hv, hbegins⟩
          obtain ⟨d, ds, rfl⟩ := List.exists_cons_of_ne_nil hv
          exact hmem d (hends.mem List.mem_cons_self) (hbegins.mem List.mem_cons_self)
        rcases (infix_append_iff_of_front hfront).1 h with h | h
        · cases w with
          | nil => exact List.nil_infix
          | cons d w =>
              exact absurd List.mem_cons_self (hmem d (h.mem List.mem_cons_self))
        · exact (ih h).trans (List.suffix_cons c s).isInfix

/-- The characters that escapes are written with. -/
def escapeSigns (q : Char) : List Char :=
  ['\\', q, 'n', 'r', 't']

/-- Escaping leaves a text alone that has none of the signs that escapes are made of. -/
theorem leavesAlone_escapeChar {q : Char} (h : ∀ d ∈ escapeSigns q, d ∉ w) :
    LeavesAlone (escapeChar q) w := by
  intro c
  simp only [escapeSigns, List.forall_mem_cons] at h
  obtain ⟨hslash, hquote, hn, hr, ht, -⟩ := h
  rw [escapeChar]
  split
  · exact Or.inr ⟨List.cons_ne_nil _ _, by simp [hslash]⟩
  split
  · exact Or.inr ⟨List.cons_ne_nil _ _, by simp [hslash, hquote]⟩
  split
  · exact Or.inr ⟨List.cons_ne_nil _ _, by simp [hslash, hn]⟩
  split
  · exact Or.inr ⟨List.cons_ne_nil _ _, by simp [hslash, hr]⟩
  split
  · exact Or.inr ⟨List.cons_ne_nil _ _, by simp [hslash, ht]⟩
  exact Or.inl rfl

/-- **Escapes bring no word into a text** but one with a character that they are written with. -/
theorem infix_of_infix_escape {q : Char} (hw : ∀ d ∈ escapeSigns q, d ∉ w)
    (h : w <:+: escape q s) : w <:+: s :=
  infix_of_infix_flatMap (leavesAlone_escapeChar hw) h

end Tablewright.Text

import Tablewright.Text.Quoted

/-! # Quoted text

What stands between two quotes is on one line: the escapes write a line feed, a carriage return and a
tab with other characters. And it is read back as it was, up to its own closing quote and no further,
whatever follows.

* `notMem_escape`: the characters that are in no written form.
* `readQuoted_escape`: a text that is written with escapes is read back. -/

namespace Tablewright.Text

/-- Does a text stay on one line? -/
def OneLine (s : String) : Prop :=
  '\n' ∉ s.toList

instance (s : String) : Decidable (OneLine s) :=
  inferInstanceAs (Decidable (_ ∉ _))

/-- A joined text is on one line exactly if both parts are. -/
@[simp] theorem oneLine_append {s t : String} : OneLine (s ++ t) ↔ OneLine s ∧ OneLine t := by
  rw [OneLine, String.toList_append, List.mem_append, not_or]
  rfl

/-- A character that the escapes write with others is in no written form. -/
theorem notMem_escapeChar {q c : Char} (hc : c = '\n' ∨ c = '\r' ∨ c = '\t') (hq : c ≠ q) (d : Char) :
    c ∉ escapeChar q d := by
  have hslash : c ≠ '\\' := by rcases hc with rfl | rfl | rfl <;> decide
  have hletter : c ≠ 'n' ∧ c ≠ 'r' ∧ c ≠ 't' := by rcases hc with rfl | rfl | rfl <;> decide
  rw [escapeChar]
  split
  · simp [hslash]
  split
  · simp [hslash, hq]
  split
  · simp [hslash, hletter]
  split
  · simp [hslash, hletter]
  split
  · simp [hslash, hletter]
  -- what is left of the characters stands for itself
  rename_i hn hr ht
  rw [List.mem_singleton]
  rintro rfl
  exact hc.elim hn (Or.elim · hr ht)

/-- A line break or a tab is not left in an escaped text. -/
theorem notMem_escape {q c : Char} (hc : c = '\n' ∨ c = '\r' ∨ c = '\t') (hq : c ≠ q)
    (s : List Char) : c ∉ escape q s := by
  rw [escape, List.mem_flatMap]
  rintro ⟨d, -, hd⟩
  exact notMem_escapeChar hc hq d hd

/-! ## Reading back -/

/-- The quotes that texts are put between. -/
def IsQuote (q : Char) : Prop :=
  q = '\'' ∨ q = '"'

/-- A character that is written with an escape, or as itself, is read as itself. -/
theorem readQuoted_escapeChar {q : Char} (hq : IsQuote q) (c : Char) (s : List Char) :
    readQuoted q (escapeChar q c ++ s) = (readQuoted q s).map fun r => (c :: r.1, r.2) := by
  by_cases hspecial : c = '\\' ∨ c = q ∨ c = '\n' ∨ c = '\r' ∨ c = '\t'
  · -- a backslash and the character that stands for it
    rcases hq with rfl | rfl <;> rcases hspecial with rfl | rfl | rfl | rfl | rfl <;> rfl
  · simp only [not_or] at hspecial
    obtain ⟨hslash, hquote, hfeed, hreturn, htab⟩ := hspecial
    rw [escapeChar, if_neg hslash, if_neg hquote, if_neg hfeed, if_neg hreturn, if_neg htab,
      List.singleton_append, readQuoted, if_neg hquote, if_neg hslash]
    exact fun d ds heq _ => hslash heq

/-- **A text that is written with escapes is read back**, and the reading ends at the quote behind
it. -/
theorem readQuoted_escape {q : Char} (hq : IsQuote q) (s rest : List Char) :
    readQuoted q (escape q s ++ q :: rest) = some (s, rest) := by
  induction s with
  | nil => rcases hq with rfl | rfl <;> rfl
  | cons c s ih => rw [escape_cons, List.append_assoc, readQuoted_escapeChar hq, ih, Option.map_some]

end Tablewright.Text

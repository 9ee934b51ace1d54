import Tablewright.Unicode.Class

/-! # Blanks: trimming and splitting text

Text is worked on as a list of characters. This module cuts such lists:

* `trimLeft`, `trimRight`, `trim`: drop blanks (White_Space) at the ends; `trimOf` drops the
  characters of any class;
* `pieces p`: the stretches between the characters of a class, empty stretches included;
* `words`: the non-empty stretches between blanks.

`onChars` carries a function on character lists to strings. -/

namespace Tablewright.Text

open Unicode (isBlank)

/-- A function on character lists as a function on strings. -/
def onChars (f : List Char → List Char) (s : String) : String :=
  String.ofList (f s.toList)

/-- The characters of a rewritten text are its rewritten characters. -/
@[simp] theorem toList_onChars (f : List Char → List Char) (s : String) :
    (onChars f s).toList = f s.toList := by
  simp [onChars]

/-! ## Trimming -/

/-- Drop the characters of a class at the right end. -/
def trimRightOf (p : Char → Bool) (s : List Char) : List Char :=
  (s.reverse.dropWhile p).reverse

/-- Drop the characters of a class at both ends. -/
def trimOf (p : Char → Bool) (s : List Char) : List Char :=
  trimRightOf p (s.dropWhile p)

/-- Drop the blanks at both ends. -/
def trim (s : List Char) : List Char :=
  trimOf isBlank s

@[simp] theorem trimRightOf_nil (p : Char → Bool) : trimRightOf p [] = [] := rfl

@[simp] theorem trim_nil : trim [] = [] := rfl

/-! ## Splitting -/

/-- The stretches between the characters of a class; there is always at least one. -/
def pieces (p : Char → Bool) : List Char → List (List Char)
  | [] => [[]]
  | c :: cs =>
    if p c then [] :: pieces p cs
    else match pieces p cs with
      | [] => [[c]]
      | w :: ws => (c :: w) :: ws

@[simp] theorem pieces_nil (p : Char → Bool) : pieces p [] = [[]] := rfl

/-- Every text has a piece, the empty text an empty one. -/
theorem pieces_ne_nil (p : Char → Bool) (s : List Char) : pieces p s ≠ [] := by
  cases s with
  | nil => simp
  | cons c cs =>
    rw [pieces]
    split
    · simp
    · split <;> simp

/-- The non-empty stretches between blanks. -/
def words (s : List Char) : List (List Char) :=
  (pieces isBlank s).filter fun w => !w.isEmpty

end Tablewright.Text

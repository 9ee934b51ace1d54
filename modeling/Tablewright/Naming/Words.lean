import Tablewright.Text.Blank
import Tablewright.Unicode.Case

/-! # The words of a name

Names come in many spellings (`user_id`, `userId`, `UserID`, `user id`). `nameWords` finds the words
of any of them: a name is cut at every character that is neither a letter nor a number, and each
stretch between is cut by case: after a lower case letter that an upper case letter follows, and
before the last capital of a run that a lower case letter follows. -/

namespace Tablewright.Naming

open Unicode

/-- The case of the last cased character of the word that is being read, if there was one. -/
inductive Casing where
  | uncased
  | lower
  | upper
  deriving DecidableEq, Inhabited

/-- The casing once the word also has the character `c`. -/
def Casing.after (m : Casing) (c : Char) : Casing :=
  if isLowercase c then .lower else if isUppercase c then .upper else m

/-- Put a character in front of the first word. -/
def consHead (c : Char) : List (List Char) → List (List Char)
  | [] => [[c]]
  | w :: ws => (c :: w) :: ws

/-- Cut a stretch of letters and numbers by case. The first word of the result continues the word
whose casing so far is `m`. -/
def splitCase (m : Casing) : List Char → List (List Char)
  | [] => []
  | [c] => [[c]]
  | c :: d :: cs =>
    -- `userId`: the lower case letter ends the word
    if m.after c = .lower ∧ isUppercase d then [c] :: splitCase .uncased (d :: cs)
    -- `HTTPServer`: the last capital begins the next word
    else if m = .upper ∧ isUppercase c ∧ isLowercase d then
      [] :: consHead c (splitCase .uncased (d :: cs))
    else consHead c (splitCase (m.after c) (d :: cs))

/-- The words of a name, in order. -/
def nameWords (s : List Char) : List (List Char) :=
  (Text.pieces (fun c => !isAlphanumeric c) s).flatMap (splitCase .uncased)

/-! ## Words in lower case and capitalized -/

/-- A word in lower case. A sigma that ends the word has a form of its own. -/
def lowerWord : List Char → List Char
  | [] => []
  | [c] => if c = 'Σ' then ['ς'] else toLower c
  | c :: d :: cs => toLower c ++ lowerWord (d :: cs)

/-- A word whose first character is in upper case and whose rest is in lower case. -/
def capitalize : List Char → List Char
  | [] => []
  | c :: cs => toUpper c ++ lowerWord cs

end Tablewright.Naming

import Tablewright.Text.Blank
import Tablewright.Unicode.Case

/-! # Directives in comments

The comment of a column can carry directives for the generators, written `[@…]`:

* `[@jsontag: name,omitempty]` gives the value of the `json` tag;
* `[@affix]` asks for `,string` at the end of the `json` tag;
* `[@pbtype: google.protobuf.Struct]` gives the protobuf type.

A directive holds no bracket. `segments` reads a comment as prose characters and directives; what a
directive says is read from its inside. A missing directive is no error, and of several the last one
counts. -/

namespace Tablewright.Comment

open Unicode (isBlank sameFold)

/-- One character of prose, or the inside of a directive. -/
inductive Segment where
  | prose (c : Char)
  | directive (body : List Char)
  deriving DecidableEq, Inhabited

/-- May the character stand inside a directive? -/
def isBodyChar (c : Char) : Bool :=
  c != '[' && c != ']'

/-- The inside of the directive that the text starts with, and the text behind it. -/
def directiveAt? : List Char → Option (List Char × List Char)
  | '[' :: '@' :: cs =>
    match cs.dropWhile isBodyChar with
    | ']' :: rest => some (cs.takeWhile isBodyChar, rest)
    -- another bracket, or the end of the comment
    | _ => none
  | _ => none

/-- A directive takes text away. -/
theorem length_lt_of_directiveAt? {s body rest : List Char}
    (h : directiveAt? s = some (body, rest)) : rest.length < s.length := by
  unfold directiveAt? at h
  split at h
  case h_1 cs =>
    split at h
    case h_1 rest' hdrop =>
      obtain ⟨-, rfl⟩ := Prod.mk.inj (Option.some.inj h)
      have hle := (List.dropWhile_suffix isBodyChar (l := cs)).length_le
      rw [hdrop] at hle
      simp only [List.length_cons] at hle ⊢
      omega
    case h_2 => simp at h
  case h_2 => simp at h

/-- The segments of a comment, in order. -/
def segments (s : List Char) : List Segment :=
  match h : directiveAt? s with
  | some (body, rest) =>
    have := length_lt_of_directiveAt? h
    .directive body :: segments rest
  | none =>
    match s with
    | [] => []
    | c :: cs => .prose c :: segments cs
termination_by s.length

/-- The insides of the directives of a comment. -/
def directives (s : List Char) : List (List Char) :=
  (segments s).filterMap fun
    | .directive body => some body
    | .prose _ => none

/-- The comment without its directives. -/
def prose (s : List Char) : List Char :=
  (segments s).filterMap fun
    | .directive _ => none
    | .prose c => some c

/-! ## What directives say -/

/-- The text behind a keyword, whose letters may have any case. -/
def afterKeyword? : List Char → List Char → Option (List Char)
  | [], s => some s
  | _ :: _, [] => none
  | k :: ks, c :: cs => if sameFold k c then afterKeyword? ks cs else none

/-- The trimmed value in a directive `keyword: value`. -/
def valueOf? (keyword : String) (body : List Char) : Option (List Char) :=
  (afterKeyword? (keyword ++ ":").toList body).map Text.trim

/-- The value of the last directive `keyword: value`, unless it is empty. -/
def lastValue? (keyword comment : String) : Option String :=
  match ((directives comment.toList).filterMap (valueOf? keyword)).getLast? with
  -- an empty value counts as none, and hides the values in front of it
  | some (c :: cs) => some (String.ofList (c :: cs))
  | _ => none

/-- The value that a comment gives to the `json` tag. -/
def jsonTag? (comment : String) : Option String :=
  lastValue? "jsontag" comment

/-- The protobuf type that a comment gives. -/
def pbType? (comment : String) : Option String :=
  lastValue? "pbtype" comment

/-- Does a comment ask for the `,string` affix? -/
def hasAffix (comment : String) : Bool :=
  (directives comment.toList).any fun body =>
    match afterKeyword? "affix".toList body with
    | some rest => rest.all isBlank
    | none => false

/-- The prose of a comment: words separated by single spaces, without commas and semicolons at the
end. -/
def strip (comment : String) : String :=
  Text.onChars (fun s =>
    Text.trim (Text.trimRightOf (fun c => c == ',' || c == ';')
      (List.intercalate [' '] (Text.words (prose s))))) comment

end Tablewright.Comment

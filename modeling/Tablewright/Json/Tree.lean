import Tablewright.Json.Token

/-! # Reading JSON documents

`run` puts tokens together under a stack of open containers. What may come next is a `Due`; `step`
says how one token is taken up, and `stopped` what document is there when reading has to stop.
`read` gives the document that a text starts with, and tells whether something follows it. -/

namespace Tablewright.Json

/-- An open container: what it holds so far, the last thing first. -/
inductive Frame where
  | items (done : List Json)
  | members (done : List (Json × Json))
  /-- An object inside the member with a key. -/
  | member (done : List (Json × Json)) (key : Json)

/-- What is due next. -/
inductive Due where
  | value
  /-- A value or the closing bracket. -/
  | firstItem
  /-- A key or the closing brace. -/
  | firstKey
  | key
  /-- The colon behind a key. -/
  | colon (key : Json)
  /-- Whatever may follow this value. -/
  | next (j : Json)

/-- The document that is one token. -/
def Token.scalar? : Token → Option Json
  | .null => some .null
  | .bool b => some (.bool b)
  | .number lexeme => some (.number lexeme)
  | .string s => some (.string s)
  | .mark _ | .bad _ _ => none

/-- Take up a token where a value is due. -/
def stepValue (outer : List Frame) (t : Token) : Option (List Frame × Due) :=
  match t with
  | .mark c =>
    if c = '[' then some (.items [] :: outer, .firstItem)
    else if c = '\x7b' then some (.members [] :: outer, .firstKey)
    else none
  | t => t.scalar?.map fun j => (outer, .next j)

/-- Take up a token where a key is due. -/
def stepKey (outer : List Frame) (t : Token) : Option (List Frame × Due) :=
  match t with
  | .string s => some (outer, .colon (.string s))
  | _ => none

/-- Is the token this mark? -/
def Token.isMark (t : Token) (c : Char) : Bool :=
  match t with
  | .mark d => d == c
  | _ => false

/-- Take up a token. Without a result it is not one that is due. -/
def step (outer : List Frame) (due : Due) (t : Token) : Option (List Frame × Due) :=
  match outer, due with
  | outer, .value => stepValue outer t
  | .items done :: rest, .firstItem =>
    if t.isMark ']' then some (rest, .next (.array [] none))
    else stepValue (.items done :: rest) t
  | .members done :: rest, .firstKey =>
    if t.isMark '\x7d' then some (rest, .next (.object [] none))
    else stepKey (.members done :: rest) t
  | .members done :: rest, .key => stepKey (.members done :: rest) t
  | .members done :: rest, .colon k =>
    if t.isMark ':' then some (.member done k :: rest, .value) else none
  | .items done :: rest, .next j =>
    -- behind a comma an item has to follow, so no bracket closes there
    if t.isMark ',' then some (.items (j :: done) :: rest, .value)
    else if t.isMark ']' then some (rest, .next (.array (j :: done).reverse none))
    else none
  | .member done k :: rest, .next j =>
    if t.isMark ',' then some (.members ((k, j) :: done) :: rest, .key)
    else if t.isMark '\x7d' then some (rest, .next (.object ((k, j) :: done).reverse none))
    else none
  | _, _ => none

/-! ## Where reading stops -/

/-- Close a container around the place where reading stopped. -/
def Frame.cut (j : Json) : Frame → Json
  | items done => .array (j :: done).reverse none
  | members done => .object done.reverse none
  | member done key => .object ((key, j) :: done).reverse none

/-- Close all containers around the place where reading stopped. -/
def cutAll (outer : List Frame) (j : Json) : Json :=
  outer.foldl Frame.cut j

/-- What is wrong where a token of another kind is due. -/
def faultOf (ts : List Token) : Fault :=
  if ts.isEmpty then .truncated else .malformed

/-- What stands where a value is due and none is. -/
def noValue : List Token → Json
  | .bad c f :: _ =>
    -- what starts as a number or a word is a value that breaks off
    if c = '-' ∨ c.isDigit ∨ (wordOf? c).isSome then .broken c f else .absent .malformed
  | ts => .absent (faultOf ts)

/-- What stands where a quoted key is due and none is. -/
def noKey : List Token → Json
  | .mark c :: _ =>
    if c = '[' then .array [] none
    else if c = '\x7b' then .object [] none
    else .absent .malformed
  | t :: ts => t.scalar?.getD (noValue (t :: ts))
  | [] => noValue []

/-- The document that is there when the next of the tokens cannot be taken up. -/
def stopped (outer : List Frame) (due : Due) (ts : List Token) : Json :=
  match outer, due with
  | outer, .value => cutAll outer (noValue ts)
  | .items done :: rest, .firstItem =>
    if ts.isEmpty then cutAll rest (.array [] (some .truncated))
    else cutAll (.items done :: rest) (noValue ts)
  | .members done :: rest, .firstKey =>
    if ts.isEmpty then cutAll rest (.object [] (some .truncated))
    else cutAll (.member done (noKey ts) :: rest) (.absent .malformed)
  | .members done :: rest, .key =>
    cutAll (.member done (noKey ts) :: rest) (.absent .malformed)
  | .members done :: rest, .colon k => cutAll (.member done k :: rest) (.absent (faultOf ts))
  | .items done :: rest, .next j =>
    cutAll rest (.array (j :: done).reverse (some (faultOf ts)))
  | .member done k :: rest, .next j =>
    cutAll rest (.object ((k, j) :: done).reverse (some (faultOf ts)))
  | _, .next j => j
  | _, _ => .absent .malformed

/-! ## Reading -/

/-- Read on. The tokens that are left over come with the document. -/
def run (outer : List Frame) (due : Due) : List Token → Json × List Token
  | [] => (stopped outer due [], [])
  | t :: ts =>
    match outer, due with
    -- the document is complete, whatever follows it
    | [], .next j => (j, t :: ts)
    | outer, due =>
      match step outer due t with
      | some (outer', due') => run outer' due' ts
      | none => (stopped outer due (t :: ts), [])

/-- The document that a text starts with, and whether something follows it. -/
def read (text : String) : Json × Bool :=
  let (j, rest) := run [] .value (lex text.toList)
  (j, !rest.isEmpty)

end Tablewright.Json

/-! # Go declarations

The part of Go that generated files are written in, as trees: groups of constants, variables, struct
types, and functions that return an expression or a composite literal, possibly one of two. `source`
writes declarations one behind the other, with an empty line behind each.

What a file declares is read off its declarations: `constants`, the `members` and the `methods` of a
type, and the bodies of functions and methods (`function?`, `method?`). A declaration of another kind
adds nothing to such a reading. -/

namespace Tablewright.Go

/-! ## Expressions -/

/-- An expression. -/
inductive Expr where
  /-- A name or a literal, as it is written. -/
  | atom (text : String)
  /-- `e.name` -/
  | member (e : Expr) (name : String)
  /-- `f(args)` -/
  | call (f : Expr) (args : List Expr)

mutual

/-- An expression as it is written. -/
@[simp] def Expr.text : Expr → String
  | .atom s => s
  | .member e name => e.text ++ "." ++ name
  | .call f args => f.text ++ "(" ++ String.intercalate ", " (Expr.texts args) ++ ")"

/-- Some expressions as they are written. -/
@[simp] def Expr.texts : List Expr → List String
  | [] => []
  | e :: es => e.text :: Expr.texts es

end

/-- The member of a variable that an expression starts from, whatever is then called on it. -/
def Expr.root? (name : String) : Expr → Option String
  | .atom _ => none
  | .member (.atom s) m => if s = name then some m else none
  | .member e _ => e.root? name
  | .call f _ => f.root? name

/-! ## Composite literals and bodies -/

/-- An element of a composite literal that sets a member. The gap is the number of blanks behind the colon. -/
structure Setting where
  member : String
  gap : Nat
  value : Expr

/-- Some blanks. -/
@[simp] def spaces (n : Nat) : String :=
  String.ofList (List.replicate n ' ')

/-- A setting as it is written. -/
@[simp] def Setting.text (s : Setting) : String :=
  s.member ++ ":" ++ spaces s.gap ++ s.value.text

/-- The body of a function. -/
inductive Body where
  /-- Return an expression. -/
  | value (e : Expr)
  /-- Return a struct with these members. -/
  | struct (type : String) (settings : List Setting)
  /-- Return a slice of these elements. -/
  | slice (type : String) (elements : List Expr)
  /-- Decide between two bodies. -/
  | branch (condition : String) (yes no : Body)

/-- The lines of a body, each behind a margin. -/
@[simp] def Body.lines (margin : String) : Body → List String
  | .value e => [margin ++ "return " ++ e.text]
  | .struct type settings =>
    (margin ++ "return " ++ type ++ "\x7b") ::
      settings.map (fun s => margin ++ "\t" ++ s.text ++ ",") ++ [margin ++ "\x7d"]
  | .slice type elements =>
    (margin ++ "return []" ++ type ++ "\x7b") ::
      elements.map (fun e => margin ++ "\t" ++ e.text ++ ",") ++ [margin ++ "\x7d"]
  | .branch condition yes no =>
    (margin ++ "if " ++ condition ++ " \x7b") :: yes.lines (margin ++ "\t") ++
      (margin ++ "\x7d else \x7b") :: no.lines (margin ++ "\t") ++ [margin ++ "\x7d"]

/-! ## Declarations -/

/-- A line of a group of constants: a comment, or a name and the literal that it is bound to. -/
inductive ConstLine where
  | note (text : String)
  | binding (name literal : String)

/-- A line of a group of constants as it is written. -/
@[simp] def ConstLine.text : ConstLine → String
  | note text => "\t// " ++ text
  | binding name literal => "\t" ++ name ++ " = " ++ literal

/-- A member of a struct type. The gap is the number of blanks between its name and its type. -/
structure Member where
  name : String
  gap : Nat
  type : String

/-- A member as it is written. -/
@[simp] def Member.text (m : Member) : String :=
  "\t" ++ m.name ++ spaces m.gap ++ m.type

/-- A function, or a method when it has a receiver: a name, which may be empty, and the type that it
points to. -/
structure Func where
  note : Option String
  receiver : Option (String × String)
  name : String
  params : String
  result : String
  body : Body

/-- The lines of a function. -/
@[simp] def Func.lines (f : Func) : List String :=
  let receiver := match f.receiver with
    | none => ""
    | some ("", type) => "(*" ++ type ++ ") "
    | some (name, type) => "(" ++ name ++ " *" ++ type ++ ") "
  f.note.toList.map ("// " ++ ·) ++
    ("func " ++ receiver ++ f.name ++ "(" ++ f.params ++ ") " ++ f.result ++ " \x7b") ::
      f.body.lines "\t" ++ ["\x7d"]

/-- A declaration. -/
inductive Decl where
  | consts (rows : List ConstLine)
  | var (name : String) (value : Expr)
  | struct (name : String) (members : List Member)
  | func (f : Func)

/-- The lines of a declaration. -/
@[simp] def Decl.lines : Decl → List String
  | consts rows => "const (" :: rows.map ConstLine.text ++ [")"]
  | var name value => ["var " ++ name ++ " = " ++ value.text]
  | struct name members =>
    ("type " ++ name ++ " struct \x7b") :: members.map Member.text ++ ["\x7d"]
  | func f => f.lines

/-- Declarations as they are written. -/
def source (file : List Decl) : String :=
  String.intercalate "\n" (file.flatMap fun d => d.lines ++ [""])

/-! ## What a file declares -/

/-- The constants, each with the literal that it is bound to. -/
def constants (file : List Decl) : List (String × String) :=
  file.flatMap fun
    | .consts rows => rows.filterMap fun
      | .note _ => none
      | .binding name literal => some (name, literal)
    | _ => []

/-- The literal that a constant is bound to. -/
def literal? (name : String) (file : List Decl) : Option String :=
  ((constants file).find? fun c => c.1 = name).map Prod.snd

/-- The members of a struct type. -/
def members (type : String) (file : List Decl) : List Member :=
  file.flatMap fun
    | .struct name members => if name = type then members else []
    | _ => []

/-- The functions. -/
def functions (file : List Decl) : List Func :=
  file.filterMap fun
    | .func f => some f
    | _ => none

/-- The methods of a type. -/
def methods (type : String) (file : List Decl) : List Func :=
  (functions file).filter fun f => f.receiver.map Prod.snd = some type

/-- The body of the function with this name. -/
def function? (name : String) (file : List Decl) : Option Body :=
  ((functions file).find? fun f => f.receiver = none ∧ f.name = name).map Func.body

/-- The body of the method of a type with this name. -/
def method? (type name : String) (file : List Decl) : Option Body :=
  ((methods type file).find? fun f => f.name = name).map Func.body

/-- The functions of joined declarations are those of both in turn. -/
theorem functions_append (file file' : List Decl) :
    functions (file ++ file') = functions file ++ functions file' :=
  List.filterMap_append

/-- Functions alone declare themselves. -/
@[simp] theorem functions_map_func (fs : List Func) : functions (fs.map .func) = fs := by
  induction fs with
  | nil => rfl
  | cons f fs ih => exact congrArg (f :: ·) ih

/-- Of constants with different names, each is bound to its own literal. -/
theorem literal?_of_mem {file : List Decl} {name literal : String}
    (hnodup : ((constants file).map Prod.fst).Nodup) (h : (name, literal) ∈ constants file) :
    literal? name file = some literal := by
  rw [literal?]
  generalize constants file = rows at hnodup h
  induction rows with
  | nil => contradiction
  | cons row rows ih =>
      rw [List.map_cons, List.nodup_cons] at hnodup
      obtain ⟨hfirst, hnodup⟩ := hnodup
      by_cases hname : row.1 = name
      · -- a second row of that name would repeat it
        rcases List.mem_cons.mp h with rfl | hmem
        · rw [List.find?_cons_of_pos (by simp)]
          rfl
        · exact absurd (hname ▸ List.mem_map_of_mem hmem) hfirst
      · rcases List.mem_cons.mp h with rfl | hmem
        · exact absurd rfl hname
        · rw [List.find?_cons_of_neg (by simpa using hname)]
          exact ih hnodup hmem

end Tablewright.Go

/-! # Switches on a command line

A command line is read from left to right against the switches of a command. `scan` records what is
given and stops at the first word that belongs to no switch. A switch may wait for its value: values
are checked when the next switch comes or the words end, so an earlier mistake can be told after a
later one. -/

namespace Tablewright.CommandLine

/-- Why a command line is refused, or what it asks for instead of a run. -/
inductive UsageError where
  | missingRequired (switch : String)
  | unknownArgument (word : String)
  | invalidValue (switch value : String)
  | rejectedValue (switch : String) (reason : String)
  | conflict (switch : String)
  | tooManyValues (switch : String)
  | missingCommand
  | unknownCommand (word : String)
  | help
  | helpForNothing
  | version
  deriving DecidableEq, Inhabited

/-- Why a value does not fit a switch. -/
inductive Misfit where
  | invalid
  | rejected (reason : String)
  deriving DecidableEq, Inhabited

/-- What a switch takes, and how often it may be given. -/
inductive Arity where
  /-- No value, once. -/
  | flag
  /-- One value, once. -/
  | one
  /-- One value each time. -/
  | each
  /-- One or more values each time. -/
  | many
  /-- No value: asks for help. -/
  | help
  /-- No value: asks for the version. -/
  | version
  deriving DecidableEq, Inhabited

/-- Does the switch take values? -/
def Arity.takesValue : Arity → Bool
  | one | each | many => true
  | flag | help | version => false

/-- May the switch be given more than once? -/
def Arity.repeats : Arity → Bool
  | each | many => true
  | flag | one | help | version => false

/-- A switch: its long name, its short name, what it takes, and which values fit. -/
structure Switch where
  name : String
  short : Option Char
  arity : Arity
  misfit? : String → Option Misfit

/-- The values that were given, for each switch in the order of the words. -/
abbrev Given := List (String × List String)

namespace Given

/-- Was the switch given? -/
def has (g : Given) (name : String) : Bool :=
  g.any fun entry => entry.1 == name

/-- All values of a switch. -/
def all (g : Given) (name : String) : List String :=
  (g.filter fun entry => entry.1 == name).flatMap (·.2)

/-- The value of a switch that takes one. -/
def one? (g : Given) (name : String) : Option String :=
  (g.all name).head?

end Given

/-- What was read of a command line: the values that are recorded, the switch that waits with its
values so far, whether it takes the next word, and whether words stand behind `--`. -/
structure Scan where
  given : Given
  waiting : Option (Switch × List String)
  taking : Bool
  wordsOnly : Bool

namespace Scan

/-- Nothing read yet. -/
def start : Scan :=
  ⟨[], none, false, false⟩

/-- Record a switch with its values. -/
def record (s : Scan) (sw : Switch) (values : List String) : Except UsageError Scan := do
  if sw.arity.takesValue && values.isEmpty then throw (.invalidValue sw.name "")
  if !sw.arity.repeats && s.given.has sw.name then throw (.conflict sw.name)
  if sw.arity = .help then throw .help
  if sw.arity = .version then throw .version
  for value in values do
    match sw.misfit? value with
    | none => pure ()
    | some .invalid => throw (.invalidValue sw.name value)
    | some (.rejected reason) => throw (.rejectedValue sw.name reason)
  return { s with given := s.given ++ [(sw.name, values)] }

/-- Record the switch that waits. -/
def settle (s : Scan) : Except UsageError Scan :=
  match s.waiting with
  | none => .ok s
  | some (sw, values) => { s with waiting := none }.record sw values

/-- Read a switch that has its value attached, or has none. -/
def complete (s : Scan) (sw : Switch) (values : List String) : Except UsageError Scan := do
  let s ← (← s.settle).record sw values
  return { s with taking := false }

/-- Let a switch wait for its values. -/
def await (s : Scan) (sw : Switch) : Except UsageError Scan := do
  return { ← s.settle with waiting := some (sw, []), taking := true }

/-- Hand a word to the switch that waits. -/
def hand (s : Scan) (word : String) : Scan :=
  match s.waiting with
  | some (sw, values) =>
    { s with waiting := some (sw, values ++ [word]), taking := sw.arity = .many }
  | none => s

/-- Read the inside of a word such as `--name` or `--name=value`. -/
def long (switches : List Switch) (s : Scan) (inside : List Char) : Except UsageError Scan :=
  let name := String.ofList (inside.takeWhile (· != '='))
  match switches.find? (·.name == name), inside.dropWhile (· != '=') with
  | none, _ => .error (.unknownArgument ("--" ++ name))
  | some sw, [] => if sw.arity.takesValue then s.await sw else s.complete sw []
  | some sw, _ :: value =>
    if sw.arity.takesValue then s.complete sw [String.ofList value]
    else .error (.tooManyValues name)

/-- Read short names that stand together; the first that takes a value takes the rest. -/
def short (switches : List Switch) (s : Scan) : List Char → Except UsageError Scan
  | [] => .ok s
  | c :: cs =>
    match switches.find? (·.short == some c) with
    | none => .error (.unknownArgument (String.ofList ['-', c]))
    | some sw =>
      if !sw.arity.takesValue then do short switches (← s.complete sw []) cs
      else match cs with
        | [] => s.await sw
        | '=' :: value => s.complete sw [String.ofList value]
        | value => s.complete sw [String.ofList value]

/-- Read one word, or say that it belongs to no switch. -/
def word (switches : List Switch) (s : Scan) (word : String) : Option (Except UsageError Scan) :=
  if s.wordsOnly then none
  else match word.toList with
    | ['-', '-'] => some (.ok { s with wordsOnly := true })
    | '-' :: '-' :: inside => some (s.long switches inside)
    | '-' :: c :: cs => some (s.short switches (c :: cs))
    | _ => if s.taking then some (.ok (s.hand word)) else none

end Scan

/-- How a scan ends: the first word that belongs to no switch, whether it stands where a command may
stand, and the words behind it. -/
structure Rest where
  word : String
  mayCommand : Bool
  behind : List String
  deriving DecidableEq, Inhabited

/-- Read words up to the first that belongs to no switch. -/
def scan (switches : List Switch) (s : Scan) :
    List String → Except UsageError (Scan × Option Rest)
  | [] => .ok (s, none)
  | w :: ws =>
    match s.word switches w with
    | some (.ok s) => scan switches s ws
    | some (.error e) => .error e
    | none => .ok (s, some ⟨w, !s.wordsOnly, ws⟩)

end Tablewright.CommandLine

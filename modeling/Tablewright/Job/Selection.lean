import Tablewright.Pattern.Library
import Tablewright.Table.Basic

/-! # Selecting tables

A selection keeps the tables that are asked for by name, or all of them when none is, and leaves out
those whose whole name matches a pattern. Patterns that are none are refused before any table is
looked at. -/

namespace Tablewright

open Pattern (InvalidPattern Library)

/-- Which tables are wanted and which are not. -/
structure Selection where
  tables : List String
  exclude : List String
  deriving DecidableEq, Inhabited

namespace Selection

/-- Is a table asked for by its name? -/
def asks (s : Selection) (name : String) : Bool :=
  s.tables.isEmpty || s.tables.contains name

/-- Keep the selected tables of a database. -/
def apply [Library] (s : Selection) (d : Database) : Except InvalidPattern Database := do
  -- the patterns come first, so that a table never hides a bad one
  let found ← Library.compile (s.exclude.map Pattern.whole)
  let keeps (t : Table) : Bool :=
    s.asks t.name && (found t.name.toList).isEmpty
  return { d with tables := d.tables.filter keeps }

end Selection

end Tablewright

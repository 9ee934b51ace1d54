import Tablewright.Proofs.Lists
import Tablewright.Proofs.Table.DefinitionLines
import Tablewright.Proofs.Text.Quoted

/-! # The literals of a table definition

A table definition consists of texts that are written as they are and of literals: the constant
defaults and the comments of the columns, and the comment of the table. `Table.sqlParts` takes a
definition apart into these. Whatever a comment or a default holds, reading it behind its opening quote
gives it back and ends where the next part begins, so none of it is ever read as SQL.

* `Table.toList_definition`: a definition is what its parts are written as.
* `Table.values_sqlParts`: the literals of a definition, in order.
* `Table.literals_read_back`: each of them is read back. -/

namespace Tablewright

open Text (IsQuote readQuoted escape)

/-! ## Parts of a statement -/

/-- A part of a statement. -/
inductive SqlPart where
  /-- A text that is written as it is. -/
  | text (sql : String)
  /-- A literal that stands for a value. -/
  | literal (value : String)
  deriving DecidableEq

namespace SqlPart

/-- A part as it is written. -/
def sql : SqlPart → String
  | text sql => sql
  | literal value => sqlLiteral value

/-- Parts in a row as they are written. -/
def written (parts : List SqlPart) : List Char :=
  parts.flatMap fun p => p.sql.toList

/-- The values of the literals among parts. -/
def values (parts : List SqlPart) : List String :=
  parts.flatMap fun
    | text _ => []
    | literal value => [value]

@[simp] theorem written_nil : written [] = [] := rfl

/-- The first part is written first. -/
@[simp] theorem written_cons (p : SqlPart) (parts : List SqlPart) :
    written (p :: parts) = p.sql.toList ++ written parts := rfl

/-- Parts are written one run after the other. -/
@[simp] theorem written_append (parts parts' : List SqlPart) :
    written (parts ++ parts') = written parts ++ written parts' :=
  List.flatMap_append

@[simp] theorem values_nil : values [] = [] := rfl

/-- Plain text holds no literal. -/
@[simp] theorem values_text (sql : String) (parts : List SqlPart) :
    values (text sql :: parts) = values parts := rfl

/-- A literal part holds its value. -/
@[simp] theorem values_literal (value : String) (parts : List SqlPart) :
    values (literal value :: parts) = value :: values parts := rfl

/-- The literals of two runs of parts are those of the first, then those of the second. -/
@[simp] theorem values_append (parts parts' : List SqlPart) :
    values (parts ++ parts') = values parts ++ values parts' :=
  List.flatMap_append

/-- **A literal is read back**: behind its opening quote stands its value, up to the part behind it. -/
theorem exists_readQuoted_written (before behind : List SqlPart) (value : String) :
    ∃ rest, written (before ++ literal value :: behind) = written before ++ '\'' :: rest ∧
      readQuoted '\'' rest = some (value.toList, written behind) := by
  refine ⟨escape '\'' value.toList ++ '\'' :: written behind, ?_,
    Text.readQuoted_escape (Or.inl rfl) _ _⟩
  simp [sql, sqlLiteral]

end SqlPart

open SqlPart (written values)

/-! ## The parts of a definition -/

namespace Column

/-- The parts of the clause that says how a new row gets its value. -/
def defaultParts (c : Column) : List SqlPart :=
  if c.autoIncrement then [.text " AUTO_INCREMENT"]
  else match c.default? with
    | some (.literal v) => [.text " DEFAULT ", .literal (ColumnDefault.unquoted v)]
    | some (.expr e) => [.text (" DEFAULT " ++ e)]
    | none => if c.nullable then [.text " DEFAULT NULL"] else []

/-- The parts of the line of a column. -/
def sqlParts (c : Column) : List SqlPart :=
  .text (sqlName c.name ++ " " ++ c.rawType ++ if c.nullable then "" else " NOT NULL") ::
    (c.defaultParts ++
      if c.comment = "" then [] else [.text " COMMENT ", .literal c.comment])

/-- The literals of a column: its constant default without the quotes around it, unless it counts up,
and its comment. -/
def literals (c : Column) : List String :=
  (if c.autoIncrement then []
    else match c.default? with
      | some (.literal v) => [ColumnDefault.unquoted v]
      | _ => []) ++
    if c.comment = "" then [] else [c.comment]

/-- The parts of the default are written as the default clause. -/
theorem written_defaultParts (c : Column) : written c.defaultParts = c.defaultClause.toList := by
  rw [defaultParts, defaultClause]
  cases c.autoIncrement with
  | true => simp [SqlPart.sql]
  | false =>
      rcases c.default? with _ | (v | e)
      · cases c.nullable <;> simp [SqlPart.sql]
      · simp [SqlPart.sql]
      · simp [SqlPart.sql]

/-- The parts of a column are written as its definition. -/
theorem written_sqlParts (c : Column) : written c.sqlParts = c.sql.toList := by
  rw [sqlParts, SqlPart.written_cons, SqlPart.written_append, written_defaultParts, sql, definition]
  by_cases hcomment : c.comment = ""
  · rw [if_pos hcomment, if_pos hcomment]
    simp [SqlPart.sql]
  · rw [if_neg hcomment, if_neg hcomment]
    simp [SqlPart.sql]

/-- A literal default is the one literal of the default clause, unless the column counts up. -/
theorem values_defaultParts (c : Column) :
    values c.defaultParts =
      if c.autoIncrement then []
      else match c.default? with
        | some (.literal v) => [ColumnDefault.unquoted v]
        | _ => [] := by
  rw [defaultParts]
  cases c.autoIncrement with
  | true => rfl
  | false =>
      rcases c.default? with _ | (v | e)
      · cases c.nullable <;> rfl
      · rfl
      · rfl

/-- The literals of a column's definition are those of its default and its comment. -/
theorem values_sqlParts (c : Column) : values c.sqlParts = c.literals := by
  rw [sqlParts, SqlPart.values_text, SqlPart.values_append, values_defaultParts, literals]
  by_cases hcomment : c.comment = ""
  · rw [if_pos hcomment, if_pos hcomment, SqlPart.values_nil]
  · rw [if_neg hcomment, if_neg hcomment]
    rfl

end Column

namespace Table

/-- The parts of each line inside a definition. -/
def lineParts (t : Table) : List (List SqlPart) :=
  t.columns.map (fun c => .text "  " :: c.sqlParts) ++
    (definitionLines [] t.indexes t.foreignKeys).map fun l => [.text ("  " ++ l)]

/-- The parts of a definition. -/
def sqlParts (t : Table) : List SqlPart :=
  .text ("CREATE TABLE " ++ sqlName t.name ++ " (\n") ::
    (List.intercalate [.text ",\n"] t.lineParts ++
      .text ("\n) ENGINE=" ++ t.engine?.getD "InnoDB" ++ " DEFAULT CHARSET=" ++
        t.charset?.getD "utf8mb4" ++
        match t.collation? with
          | some c => " COLLATE=" ++ c
          | none => "") ::
      ((if t.comment = "" then [] else [.text " COMMENT=", .literal t.comment]) ++
        [.text ";"]))

/-- The literals of a table: those of its columns in their order, and its comment. -/
def literals (t : Table) : List String :=
  t.columns.flatMap Column.literals ++ if t.comment = "" then [] else [t.comment]

/-- The parts of a table's lines are written as its definition lines, indented. -/
theorem map_written_lineParts (t : Table) :
    t.lineParts.map written =
      (definitionLines t.columns t.indexes t.foreignKeys).map fun l => ("  " ++ l).toList := by
  simp [lineParts, definitionLines, Column.written_sqlParts, SqlPart.sql, Function.comp_def]

/-- **A definition is what its parts are written as.** -/
theorem toList_definition (t : Table) : t.definition.toList = written t.sqlParts := by
  have hlines : written (List.intercalate [.text ",\n"] t.lineParts) =
      (String.intercalate ",\n" ((definitionLines t.columns t.indexes t.foreignKeys).map
        fun l => "  " ++ l)).toList := by
    rw [written, flatMap_intercalate, String.toList_intercalate, List.map_map]
    exact congrArg _ t.map_written_lineParts
  rw [sqlParts, SqlPart.written_cons, SqlPart.written_append, hlines]
  unfold definition createStatement options
  by_cases hcomment : t.comment = ""
  · rw [if_pos hcomment, if_pos hcomment]
    cases t.collation? <;> simp [SqlPart.sql]
  · rw [if_neg hcomment, if_neg hcomment]
    cases t.collation? <;> simp [SqlPart.sql]

/-- **The literals of a definition**, in order. -/
theorem values_sqlParts (t : Table) : values t.sqlParts = t.literals := by
  have hcolumns : (t.columns.map fun c => values (.text "  " :: c.sqlParts)) =
      t.columns.map Column.literals :=
    List.map_congr_left fun c _ => c.values_sqlParts
  have hkeys : ((definitionLines [] t.indexes t.foreignKeys).map fun l =>
      values [.text ("  " ++ l)]).flatten = [] := by
    rw [List.flatten_eq_nil_iff, List.forall_mem_map]
    exact fun _ _ => rfl
  have hlines : values (List.intercalate [.text ",\n"] t.lineParts) =
      t.columns.flatMap Column.literals := by
    calc values (List.intercalate [.text ",\n"] t.lineParts)
        = (t.lineParts.map values).flatten := by
          rw [values, flatMap_intercalate]
          exact intercalate_nil_left _
      _ = (t.columns.map Column.literals).flatten := by
          rw [lineParts, List.map_append, List.map_map, List.map_map, List.flatten_append]
          show (t.columns.map fun c => values (.text "  " :: c.sqlParts)).flatten ++
            ((definitionLines [] t.indexes t.foreignKeys).map fun l =>
              values [.text ("  " ++ l)]).flatten = _
          rw [hcolumns, hkeys, List.append_nil]
  rw [sqlParts, SqlPart.values_text, SqlPart.values_append, hlines, SqlPart.values_text, literals]
  split <;> rfl

/-- **Literals are read back.** A text that is written with escapes between two quotes is read as it
was, up to its own closing quote, whatever follows, and it has no line feed, carriage return or tab
between the quotes. So every comment and every constant default in a definition is one literal: behind
its opening quote the value is read, and the reading ends where the next part begins. -/
theorem literals_read_back {q : Char} (hq : IsQuote q) (s rest : List Char) (t : Table) :
    readQuoted q (escape q s ++ q :: rest) = some (s, rest) ∧
      (∀ c ∈ ['\n', '\r', '\t'], c ∉ escape q s) ∧
      t.definition.toList = written t.sqlParts ∧ values t.sqlParts = t.literals ∧
      ∀ before value behind, t.sqlParts = before ++ .literal value :: behind →
        ∃ inside, t.definition.toList = written before ++ '\'' :: inside ∧
          readQuoted '\'' inside = some (value.toList, written behind) := by
  refine ⟨Text.readQuoted_escape hq s rest, fun c hc => ?_, t.toList_definition, t.values_sqlParts, ?_⟩
  · have hc' : c = '\n' ∨ c = '\r' ∨ c = '\t' := by simpa using hc
    refine Text.notMem_escape hc' ?_ s
    rcases hq with rfl | rfl <;> rcases hc' with rfl | rfl | rfl <;> decide
  · intro before value behind hparts
    rw [toList_definition, hparts]
    exact SqlPart.exists_readQuoted_written before behind value

/-- A comment that would end the statement, and a default that is a quote, stay within their
literals. -/
theorem literals_read_back_statement :
    let c : Column :=
      { (default : Column) with
        name := "a", rawType := "text", default? := some (.literal "\"'\""), comment := "'); --\\" }
    let t : Table := { (default : Table) with name := "t", columns := [c] }
    IsQuote '\'' ∧ t.literals = ["'", "'); --\\"] ∧
      ∃ before behind inside, t.definition.toList = written before ++ '\'' :: inside ∧
        readQuoted '\'' inside = some ("'); --\\".toList, written behind) := by
  intro c t
  have hquote : IsQuote '\'' := Or.inl rfl
  obtain ⟨-, -, -, -, hread⟩ := literals_read_back hquote [] [] t
  have hparts : t.sqlParts = t.sqlParts.take 6 ++ .literal "'); --\\" :: t.sqlParts.drop 7 := by
    decide +kernel
  obtain ⟨inside, hinside, hback⟩ := hread _ _ _ hparts
  exact ⟨hquote, by decide +kernel, _, _, inside, hinside, hback⟩

end Table

end Tablewright

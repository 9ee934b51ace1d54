import Tablewright.Proofs.Text.Lines
import Tablewright.Proofs.Text.Quoted
import Tablewright.Table.Ddl

/-! # The lines of a table definition

A table definition is a text of lines: one that opens it, one for each column, index and foreign key,
and one that closes it. Nothing that a comment or a constant default holds can break such a line, for
both are written with escapes; names and the texts that are written as they are (`Table.verbatim`)
have to stay on one line themselves.

* `Table.definition_eq_intercalate`: the lines of a definition.
* `Table.oneLine_definitionLines`: the line of a column or a key is one line.
* `Table.lines_eq_of_definition_eq`: definitions with one text have the same lines. -/

namespace Tablewright

open Text (OneLine oneLine_append punctuated)

/-! ## What is written into a definition -/

/-- The expression that a column has as its default, if it has one. -/
def Column.expression? (c : Column) : Option String :=
  match c.default? with
  | some (.expr e) => some e
  | _ => none

namespace Table

/-- The names that a definition writes between backticks. -/
def names (t : Table) : List String :=
  t.name :: t.columns.map Column.name ++ t.indexes.flatMap (fun i => i.name :: i.columns) ++
    t.foreignKeys.flatMap fun k => k.symbol :: k.refTable :: (k.columns ++ k.refColumns)

/-- The texts that a definition writes as they are. -/
def verbatim (t : Table) : List String :=
  t.columns.map Column.rawType ++ t.columns.filterMap Column.expression? ++
    t.indexes.filterMap Index.algorithm? ++ t.engine?.toList ++ t.charset?.toList ++
    t.collation?.toList

/-- The raw type of a column is written as it is. -/
theorem rawType_mem_verbatim {t : Table} {c : Column} (hc : c ∈ t.columns) :
    c.rawType ∈ t.verbatim := by
  simp only [verbatim, List.mem_append]
  exact Or.inl (Or.inl (Or.inl (Or.inl (Or.inl (List.mem_map_of_mem hc)))))

/-- The expression of a default is written as it is. -/
theorem expression_mem_verbatim {t : Table} {c : Column} {e : String} (hc : c ∈ t.columns)
    (he : c.expression? = some e) : e ∈ t.verbatim := by
  simp only [verbatim, List.mem_append]
  exact Or.inl (Or.inl (Or.inl (Or.inl (Or.inr (List.mem_filterMap.mpr ⟨c, hc, he⟩)))))

/-- The algorithm of an index is written as it is. -/
theorem algorithm_mem_verbatim {t : Table} {i : Index} {a : String} (hi : i ∈ t.indexes)
    (ha : i.algorithm? = some a) : a ∈ t.verbatim := by
  simp only [verbatim, List.mem_append]
  exact Or.inl (Or.inl (Or.inl (Or.inr (List.mem_filterMap.mpr ⟨i, hi, ha⟩))))

/-- The name of the table is among the names. -/
theorem name_mem_names (t : Table) : t.name ∈ t.names := by
  simp [names]

/-- The names of the columns are among the names. -/
theorem mem_names_of_column {t : Table} {c : Column} (hc : c ∈ t.columns) : c.name ∈ t.names := by
  rw [names, List.mem_append, List.mem_append]
  exact Or.inl (Or.inl (List.mem_cons_of_mem _ (List.mem_map_of_mem hc)))

/-- The names in an index are among the names. -/
theorem mem_names_of_index {t : Table} {i : Index} {n : String} (hi : i ∈ t.indexes)
    (hn : n ∈ i.name :: i.columns) : n ∈ t.names := by
  rw [names, List.mem_append, List.mem_append]
  exact Or.inl (Or.inr (List.mem_flatMap_of_mem hi hn))

/-- The names in a foreign key are among the names. -/
theorem mem_names_of_foreignKey {t : Table} {k : ForeignKey} {n : String} (hk : k ∈ t.foreignKeys)
    (hn : n ∈ k.symbol :: k.refTable :: (k.columns ++ k.refColumns)) : n ∈ t.names := by
  rw [names, List.mem_append]
  exact Or.inr (List.mem_flatMap_of_mem hk hn)

end Table

/-! ## Lines -/

/-- A literal is on one line, whatever text it stands for. -/
theorem oneLine_sqlLiteral (s : String) : OneLine (sqlLiteral s) := by
  rw [sqlLiteral, oneLine_append, oneLine_append]
  refine ⟨⟨by simp [OneLine], ?_⟩, by simp [OneLine]⟩
  rw [OneLine, Text.toList_onChars]
  exact Text.notMem_escape (Or.inl rfl) (by decide) _

/-- Backticks add no line to a name. -/
theorem oneLine_sqlName {name : String} (h : OneLine name) : OneLine (sqlName name) := by
  rw [sqlName, oneLine_append, oneLine_append]
  exact ⟨⟨by simp [OneLine], h⟩, by simp [OneLine]⟩

@[simp] theorem sqlNames_nil : sqlNames [] = "" := rfl

/-- A single name is written without a comma. -/
@[simp] theorem sqlNames_singleton (n : String) : sqlNames [n] = sqlName n :=
  String.intercalate_singleton

/-- Names are separated by commas. -/
theorem sqlNames_cons_cons (n m : String) (ns : List String) :
    sqlNames (n :: m :: ns) = sqlName n ++ "," ++ sqlNames (m :: ns) :=
  String.intercalate_cons_cons

/-- Names on one line are written on one line. -/
theorem oneLine_sqlNames {ns : List String} (h : ∀ n ∈ ns, OneLine n) : OneLine (sqlNames ns) := by
  match ns with
  | [] => exact (by simp [OneLine] : OneLine "")
  | [n] =>
      rw [sqlNames_singleton]
      exact oneLine_sqlName (h n List.mem_cons_self)
  | n :: m :: ns =>
      obtain ⟨hn, hrest⟩ := List.forall_mem_cons.mp h
      rw [sqlNames_cons_cons, oneLine_append, oneLine_append]
      exact ⟨⟨oneLine_sqlName hn, by simp [OneLine]⟩, oneLine_sqlNames hrest⟩

namespace Column

/-- The clause for a default is on one line if its expression is. -/
theorem oneLine_defaultClause {c : Column} (hexpr : ∀ e, c.expression? = some e → OneLine e) :
    OneLine c.defaultClause := by
  rw [defaultClause]
  split
  · simp [OneLine]
  · split
    case h_1 v hdefault =>
      rw [oneLine_append]
      exact ⟨by simp [OneLine], oneLine_sqlLiteral _⟩
    case h_2 e hdefault =>
      rw [oneLine_append]
      refine ⟨by simp [OneLine], hexpr e ?_⟩
      rw [expression?, hdefault]
    case h_3 => split <;> simp [OneLine]

/-- The line of a column is one line, whatever its comment and its constant default hold. -/
theorem oneLine_sql {c : Column} (hname : OneLine c.name) (htype : OneLine c.rawType)
    (hexpr : ∀ e, c.expression? = some e → OneLine e) : OneLine c.sql := by
  rw [sql, definition]
  simp only [oneLine_append]
  refine ⟨⟨⟨oneLine_sqlName hname, by simp [OneLine]⟩, ⟨htype, ?_⟩, oneLine_defaultClause hexpr⟩, ?_⟩
  · split <;> simp [OneLine]
  · split
    · simp [OneLine]
    · rw [oneLine_append]
      exact ⟨by simp [OneLine], oneLine_sqlLiteral _⟩

end Column

/-- The line of an index is one line if the names and the algorithm in it are. -/
theorem Index.oneLine_definition {i : Index} (hname : OneLine i.name)
    (hcolumns : ∀ n ∈ i.columns, OneLine n) (halgorithm : ∀ a, i.algorithm? = some a → OneLine a) :
    OneLine i.definition := by
  rw [definition]
  simp only [oneLine_append]
  refine ⟨⟨⟨⟨?_, by simp [OneLine]⟩, oneLine_sqlNames hcolumns⟩, by simp [OneLine]⟩, ?_⟩
  · split
    · simp [OneLine]
    · split <;> rw [oneLine_append] <;> exact ⟨by simp [OneLine], oneLine_sqlName hname⟩
  · rw [algorithm]
    cases h : i.algorithm? with
    | none => exact (by simp [OneLine] : OneLine "BTREE")
    | some a => exact halgorithm a h

/-- The words for an action are on one line. -/
theorem ReferenceAction.oneLine_sql (a : ReferenceAction) : OneLine a.sql := by
  cases a <;> simp [OneLine, sql]

/-- The line of a foreign key is one line if the names in it are. -/
theorem ForeignKey.oneLine_definition {k : ForeignKey} (hsymbol : OneLine k.symbol)
    (hcolumns : ∀ n ∈ k.columns, OneLine n) (htable : OneLine k.refTable)
    (href : ∀ n ∈ k.refColumns, OneLine n) : OneLine k.definition := by
  unfold definition
  simp only [oneLine_append, oneLine_sqlName hsymbol, oneLine_sqlNames hcolumns,
    oneLine_sqlName htable, oneLine_sqlNames href, ReferenceAction.oneLine_sql, and_true]
  simp [OneLine]

namespace Table

/-- The options of a table are on one line if the texts in them are. -/
theorem oneLine_options {t : Table} (h : ∀ s ∈ t.verbatim, OneLine s) : OneLine t.options := by
  have hengine : OneLine (t.engine?.getD "InnoDB") := by
    cases hsome : t.engine? with
    | none => exact (by simp [OneLine] : OneLine "InnoDB")
    | some s => exact h s (by simp [verbatim, hsome])
  have hcharset : OneLine (t.charset?.getD "utf8mb4") := by
    cases hsome : t.charset? with
    | none => exact (by simp [OneLine] : OneLine "utf8mb4")
    | some s => exact h s (by simp [verbatim, hsome])
  rw [options]
  simp only [oneLine_append]
  refine ⟨⟨⟨⟨⟨by simp [OneLine], hengine⟩, by simp [OneLine]⟩, hcharset⟩, ?_⟩, ?_⟩
  · cases hsome : t.collation? with
    | none => exact (by simp [OneLine] : OneLine "")
    | some s => exact oneLine_append.mpr ⟨by simp [OneLine], h s (by simp [verbatim, hsome])⟩
  · split
    · simp [OneLine]
    · exact oneLine_append.mpr ⟨by simp [OneLine], oneLine_sqlLiteral _⟩

/-- **The line of a column or a key is one line**, whatever comments and constant defaults hold. -/
theorem oneLine_definitionLines {t : Table} (hnames : ∀ n ∈ t.names, OneLine n)
    (hverbatim : ∀ s ∈ t.verbatim, OneLine s) :
    ∀ l ∈ definitionLines t.columns t.indexes t.foreignKeys, OneLine l := by
  have hcolumn : ∀ c ∈ t.columns, OneLine c.sql := by
    intro c hc
    exact Column.oneLine_sql (hnames _ (mem_names_of_column hc))
      (hverbatim _ (rawType_mem_verbatim hc)) fun e he => hverbatim _ (expression_mem_verbatim hc he)
  have hindex : ∀ i ∈ t.indexes, OneLine i.definition := by
    intro i hi
    exact Index.oneLine_definition (hnames _ (mem_names_of_index hi List.mem_cons_self))
      (fun n hn => hnames _ (mem_names_of_index hi (List.mem_cons_of_mem _ hn))) fun a ha =>
        hverbatim _ (algorithm_mem_verbatim hi ha)
  have hkey : ∀ k ∈ t.foreignKeys, OneLine k.definition := by
    intro k hk
    have hname := fun n hn => hnames n (mem_names_of_foreignKey hk hn)
    exact ForeignKey.oneLine_definition (hname _ (by simp)) (fun n hn => hname n (by simp [hn]))
      (hname _ (by simp)) fun n hn => hname n (by simp [hn])
  intro l hl
  simp only [definitionLines, List.mem_append, List.mem_map, List.mem_filter] at hl
  obtain ((⟨c, hc, rfl⟩ | ⟨i, ⟨hi, -⟩, rfl⟩) | ⟨i, ⟨hi, -⟩, rfl⟩) | ⟨k, hk, rfl⟩ := hl
  · exact hcolumn c hc
  · exact hindex i hi
  · exact hindex i hi
  · exact hkey k hk

/-! ## The text of a definition -/

/-- The lines of columns and keys as they stand inside a definition: indented, and with a comma behind
all but the last. -/
def innerLines (t : Table) : List String :=
  punctuated "," ((definitionLines t.columns t.indexes t.foreignKeys).map fun l => "  " ++ l)

/-- The line that opens a definition. -/
def openingLine (t : Table) : String :=
  "CREATE TABLE " ++ sqlName t.name ++ " ("

/-- The line that closes a definition. -/
def closingLine (t : Table) : String :=
  ")" ++ t.options ++ ";"

/-- A table with columns has lines. -/
theorem definitionLines_ne_nil {columns : List Column} (h : columns ≠ []) (indexes : List Index)
    (keys : List ForeignKey) : definitionLines columns indexes keys ≠ [] := by
  simp [definitionLines, h]

/-- **The lines of a definition.** -/
theorem definition_eq_intercalate {t : Table} (h : t.columns ≠ []) :
    t.definition = String.intercalate "\n" (t.openingLine :: (t.innerLines ++ [t.closingLine])) := by
  -- the commas move from between the lines to the lines
  have hinner : t.innerLines ≠ [] :=
    Text.punctuated_ne_nil (by simpa using definitionLines_ne_nil h _ _)
  rw [String.intercalate_cons_of_ne_nil (by simp),
    String.intercalate_append_of_ne_nil hinner (by simp), String.intercalate_singleton, innerLines,
    ← Text.intercalate_mark_newline, ← String.toList_inj]
  unfold definition createStatement openingLine closingLine
  simp

/-- All lines of a definition are lines if the names and the texts in it are on one line each. -/
theorem oneLine_definition {t : Table} (hnames : ∀ n ∈ t.names, OneLine n)
    (hverbatim : ∀ s ∈ t.verbatim, OneLine s) :
    ∀ l ∈ t.openingLine :: (t.innerLines ++ [t.closingLine]), OneLine l := by
  refine List.forall_mem_cons.mpr ⟨?_, List.forall_mem_append.mpr ⟨?_, ?_⟩⟩
  · rw [openingLine, oneLine_append, oneLine_append]
    exact ⟨⟨by simp [OneLine], oneLine_sqlName (hnames _ t.name_mem_names)⟩, by simp [OneLine]⟩
  · refine Text.mem_of_mem_punctuated (by simp) ?_
    rw [List.forall_mem_map]
    intro l hl
    exact oneLine_append.mpr ⟨by simp [OneLine], oneLine_definitionLines hnames hverbatim l hl⟩
  · rw [List.forall_mem_singleton, closingLine, oneLine_append, oneLine_append]
    exact ⟨⟨by simp [OneLine], oneLine_options hverbatim⟩, by simp [OneLine]⟩

/-- **Definitions with one text have the same lines.** -/
theorem lines_eq_of_definition_eq {t u : Table} (ht : t.columns ≠ []) (hu : u.columns ≠ [])
    (htnames : ∀ n ∈ t.names, OneLine n) (hunames : ∀ n ∈ u.names, OneLine n)
    (htverbatim : ∀ s ∈ t.verbatim, OneLine s) (huverbatim : ∀ s ∈ u.verbatim, OneLine s)
    (h : t.definition = u.definition) :
    t.openingLine = u.openingLine ∧
      definitionLines t.columns t.indexes t.foreignKeys =
        definitionLines u.columns u.indexes u.foreignKeys := by
  rw [definition_eq_intercalate ht, definition_eq_intercalate hu] at h
  have hlines := Text.intercalate_newline_inj (by simp) (by simp)
    (oneLine_definition htnames htverbatim) (oneLine_definition hunames huverbatim) h
  obtain ⟨hopening, hrest⟩ := List.cons.inj hlines
  -- the closing line is the last of both; commas and indentation come off the others
  have hinner := Text.punctuated_injective "," (List.append_inj' hrest rfl).1
  refine ⟨hopening, ?_⟩
  exact (List.map_inj_right fun _ _ => (String.append_right_inj "  ").mp).mp hinner

end Table

end Tablewright

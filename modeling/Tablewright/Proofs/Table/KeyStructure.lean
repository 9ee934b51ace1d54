import Tablewright.Proofs.Lists
import Tablewright.Proofs.Table.DefinitionLines

/-! # A table definition keeps the keys apart

The text of a table definition determines the table's name, its columns' names and all of its keys.
The lines of a definition are of four kinds, which the first character tells (`LineKind.ofLine`), and
within a line every name ends at the backtick behind it. A text that starts with a name, a list of
names or an action leaves no choice about where that ends (`sqlName_append_inj`,
`sqlNames_append_inj`, `ReferenceAction.sql_append_inj`); the lines are read from left to right by
these three.

* `filter_definitionLines`: the lines of each kind.
* `Table.keys_eq_of_definition_eq`: definitions with one text are of tables with the same keys. -/

namespace Tablewright

open Text (OneLine)

/-! ## Where a name ends -/

/-- A stretch without a character ends in front of the first one. -/
theorem append_cons_inj_of_notMem {q : Char} {a b s t : List Char} (ha : q ∉ a) (hb : q ∉ b)
    (h : a ++ q :: s = b ++ q :: t) : a = b ∧ s = t := by
  induction a generalizing b with
  | nil =>
      cases b with
      | nil => exact ⟨rfl, (List.cons.inj h).2⟩
      | cons c b =>
          obtain rfl : q = c := (List.cons.inj h).1
          exact absurd List.mem_cons_self hb
  | cons c a ih =>
      cases b with
      | nil =>
          obtain rfl : c = q := (List.cons.inj h).1
          exact absurd List.mem_cons_self ha
      | cons d b =>
          obtain ⟨rfl, htail⟩ := List.cons.inj h
          obtain ⟨rfl, hrest⟩ := ih (List.not_mem_of_not_mem_cons ha)
            (List.not_mem_of_not_mem_cons hb) htail
          exact ⟨rfl, hrest⟩

/-- A name between backticks ends at the second one. -/
theorem sqlName_append_inj {m n : String} {s t : List Char} (hm : '\x60' ∉ m.toList)
    (hn : '\x60' ∉ n.toList) (h : (sqlName m).toList ++ s = (sqlName n).toList ++ t) :
    m = n ∧ s = t := by
  have hopen : m.toList ++ '\x60' :: s = n.toList ++ '\x60' :: t := by
    simpa [sqlName] using h
  obtain ⟨hname, hrest⟩ := append_cons_inj_of_notMem hm hn hopen
  exact ⟨String.toList_inj.mp hname, hrest⟩

/-- What stands behind the first of some names: nothing, or a comma and the others. -/
def sqlNamesRest (ns : List String) : List Char :=
  if ns = [] then [] else ',' :: (sqlNames ns).toList

/-- A list of names starts with its first name. -/
theorem toList_sqlNames_cons (n : String) (ns : List String) :
    (sqlNames (n :: ns)).toList = (sqlName n).toList ++ sqlNamesRest ns := by
  cases ns with
  | nil => simp [sqlNamesRest]
  | cons m ns => simp [sqlNames_cons_cons, sqlNamesRest]

/-- A list of names ends at the parenthesis behind it. -/
theorem sqlNames_append_inj {ms ns : List String} {s t : List Char}
    (hms : ∀ m ∈ ms, '\x60' ∉ m.toList) (hns : ∀ n ∈ ns, '\x60' ∉ n.toList)
    (h : (sqlNames ms).toList ++ ')' :: s = (sqlNames ns).toList ++ ')' :: t) :
    ms = ns ∧ s = t := by
  induction ms generalizing ns with
  | nil =>
      cases ns with
      | nil => simpa using h
      | cons n ns => simp [toList_sqlNames_cons, sqlName] at h
  | cons m ms ih =>
      cases ns with
      | nil => simp [toList_sqlNames_cons, sqlName] at h
      | cons n ns =>
          obtain ⟨hm, hms⟩ := List.forall_mem_cons.mp hms
          obtain ⟨hn, hns'⟩ := List.forall_mem_cons.mp hns
          rw [toList_sqlNames_cons, toList_sqlNames_cons, List.append_assoc, List.append_assoc] at h
          obtain ⟨rfl, hrest⟩ := sqlName_append_inj hm hn h
          -- behind a name stands a comma if more names follow, and a parenthesis if not
          rw [sqlNamesRest, sqlNamesRest] at hrest
          by_cases hmnil : ms = []
          · by_cases hnnil : ns = []
            · subst hmnil hnnil
              simpa using hrest
            · rw [if_pos hmnil, if_neg hnnil] at hrest
              simp at hrest
          · by_cases hnnil : ns = []
            · rw [if_neg hmnil, if_pos hnnil] at hrest
              simp at hrest
            · rw [if_neg hmnil, if_neg hnnil] at hrest
              obtain ⟨rfl, hend⟩ := ih hms hns' (List.cons.inj hrest).2
              exact ⟨rfl, hend⟩

/-- No action is spelled like the beginning of another one. -/
theorem ReferenceAction.sql_append_inj {a b : ReferenceAction} {s t : List Char}
    (h : a.sql.toList ++ s = b.sql.toList ++ t) : a = b ∧ s = t := by
  cases a <;> cases b <;> simp_all [sql]

/-! ## Kinds of lines -/

/-- What a line of a definition is about. -/
inductive LineKind where
  | column
  | primary
  | secondary
  | foreign
  deriving DecidableEq

/-- The kind of a line, told by its first character. -/
def LineKind.ofLine (line : String) : LineKind :=
  match line.toList.head? with
  | some '\x60' => .column
  | some 'P' => .primary
  | some 'U' => .secondary
  | some 'K' => .secondary
  | _ => .foreign

/-- The line of a column is recognized as one. -/
theorem Column.ofLine_sql (c : Column) : LineKind.ofLine c.sql = .column := by
  simp [LineKind.ofLine, sql, sqlName]

/-- The line of an index is recognized as that of the primary key or of another index. -/
theorem Index.ofLine_definition (i : Index) :
    LineKind.ofLine i.definition = if i.isPrimary then .primary else .secondary := by
  rw [LineKind.ofLine, definition]
  by_cases hprimary : i.isPrimary = true
  · simp [hprimary]
  · by_cases hunique : i.isUnique = true <;> simp [hprimary, hunique]

/-- The line of a foreign key is recognized as one. -/
theorem ForeignKey.ofLine_definition (k : ForeignKey) :
    LineKind.ofLine k.definition = .foreign := by
  unfold LineKind.ofLine definition
  simp

/-- Lines of one kind are kept by the filter for it, and by no other. -/
theorem LineKind.filter_ofLine {lines : List String} {own : LineKind} (kind : LineKind)
    (h : ∀ l ∈ lines, ofLine l = own) :
    lines.filter (fun l => ofLine l = kind) = if own = kind then lines else [] := by
  split
  case isTrue heq =>
    rw [List.filter_eq_self]
    intro l hl
    rw [h l hl, heq, decide_eq_true_eq]
  case isFalse hne =>
    rw [List.filter_eq_nil_iff]
    intro l hl
    rw [h l hl, decide_eq_true_eq]
    exact hne

/-- **The lines of each kind.** -/
theorem Table.filter_definitionLines (columns : List Column) (indexes : List Index)
    (keys : List ForeignKey) (kind : LineKind) :
    (definitionLines columns indexes keys).filter (fun l => LineKind.ofLine l = kind) =
      match kind with
      | .column => columns.map Column.sql
      | .primary => (indexes.filter Index.isPrimary).map Index.definition
      | .secondary => (indexes.filter fun i => !i.isPrimary).map Index.definition
      | .foreign => keys.map ForeignKey.definition := by
  have hcolumns : ∀ l ∈ columns.map Column.sql, LineKind.ofLine l = .column := by
    rw [List.forall_mem_map]
    exact fun c _ => c.ofLine_sql
  have hprimary : ∀ l ∈ (indexes.filter Index.isPrimary).map Index.definition,
      LineKind.ofLine l = .primary := by
    rw [List.forall_mem_map]
    intro i hi
    rw [i.ofLine_definition, if_pos (List.mem_filter.mp hi).2]
  have hsecondary : ∀ l ∈ (indexes.filter fun i => !i.isPrimary).map Index.definition,
      LineKind.ofLine l = .secondary := by
    rw [List.forall_mem_map]
    intro i hi
    rw [i.ofLine_definition, if_neg (by simpa using (List.mem_filter.mp hi).2)]
  have hforeign : ∀ l ∈ keys.map ForeignKey.definition, LineKind.ofLine l = .foreign := by
    rw [List.forall_mem_map]
    exact fun k _ => k.ofLine_definition
  -- of the four groups of lines a kind keeps one and drops the others
  rw [definitionLines, List.filter_append, List.filter_append, List.filter_append,
    LineKind.filter_ofLine kind hcolumns, LineKind.filter_ofLine kind hprimary,
    LineKind.filter_ofLine kind hsecondary, LineKind.filter_ofLine kind hforeign]
  cases kind <;> simp

/-! ## What a line says -/

/-- Columns without backquotes in their names are defined alike only under one name. -/
theorem Column.name_eq_of_sql_eq {c d : Column} (hc : '\x60' ∉ c.name.toList)
    (hd : '\x60' ∉ d.name.toList) (h : c.sql = d.sql) : c.name = d.name := by
  have hchars := congrArg String.toList h
  rw [sql, sql] at hchars
  simp only [String.toList_append, List.append_assoc] at hchars
  exact (sqlName_append_inj hc hd hchars).1

namespace Index

/-- The line of a primary index tells its columns. -/
theorem columns_eq_of_definition_eq {i j : Index} (hi : i.isPrimary = true)
    (hj : j.isPrimary = true) (hicolumns : ∀ n ∈ i.columns, '\x60' ∉ n.toList)
    (hjcolumns : ∀ n ∈ j.columns, '\x60' ∉ n.toList) (h : i.definition = j.definition) :
    i.columns = j.columns := by
  have hchars := congrArg String.toList h
  rw [definition, definition, if_pos hi, if_pos hj] at hchars
  have hnames : (sqlNames i.columns).toList ++ ')' :: (" USING ".toList ++ i.algorithm.toList) =
      (sqlNames j.columns).toList ++ ')' :: (" USING ".toList ++ j.algorithm.toList) := by
    simpa using hchars
  exact (sqlNames_append_inj hicolumns hjcolumns hnames).1

/-- The line of an index that is not primary tells all about it. -/
theorem eq_of_definition_eq {i j : Index} (hi : i.isPrimary = false) (hj : j.isPrimary = false)
    (hinames : ∀ n ∈ i.name :: i.columns, '\x60' ∉ n.toList)
    (hjnames : ∀ n ∈ j.name :: j.columns, '\x60' ∉ n.toList) (h : i.definition = j.definition) :
    i.name = j.name ∧ i.isUnique = j.isUnique ∧ i.columns = j.columns ∧
      i.algorithm = j.algorithm := by
  obtain ⟨hiname, hicolumns⟩ := List.forall_mem_cons.mp hinames
  obtain ⟨hjname, hjcolumns⟩ := List.forall_mem_cons.mp hjnames
  have hchars := congrArg String.toList h
  -- behind the key word both kinds of lines read the same
  have hkey : i.isUnique = j.isUnique ∧
      (sqlName i.name).toList ++ (" (".toList ++ ((sqlNames i.columns).toList ++
        ')' :: (" USING ".toList ++ i.algorithm.toList))) =
      (sqlName j.name).toList ++ (" (".toList ++ ((sqlNames j.columns).toList ++
        ')' :: (" USING ".toList ++ j.algorithm.toList))) := by
    rw [definition, definition, hi, hj] at hchars
    cases hiunique : i.isUnique with
    | false =>
        cases hjunique : j.isUnique with
        | false => simpa [hiunique, hjunique] using hchars
        | true => simp [hiunique, hjunique] at hchars
    | true =>
        cases hjunique : j.isUnique with
        | false => simp [hiunique, hjunique] at hchars
        | true => simpa [hiunique, hjunique] using hchars
  obtain ⟨hunique, htail⟩ := hkey
  obtain ⟨hname, hrest⟩ := sqlName_append_inj hiname hjname htail
  obtain ⟨hcolumns, hend⟩ :=
    sqlNames_append_inj hicolumns hjcolumns (List.append_cancel_left hrest)
  exact ⟨hname, hunique, hcolumns, String.toList_inj.mp (List.append_cancel_left hend)⟩

end Index

/-- The line of a foreign key tells all about it. -/
theorem ForeignKey.eq_of_definition_eq {k l : ForeignKey}
    (hknames : ∀ n ∈ k.symbol :: k.refTable :: (k.columns ++ k.refColumns), '\x60' ∉ n.toList)
    (hlnames : ∀ n ∈ l.symbol :: l.refTable :: (l.columns ++ l.refColumns), '\x60' ∉ n.toList)
    (h : k.definition = l.definition) : k = l := by
  simp only [List.forall_mem_cons, List.forall_mem_append] at hknames hlnames
  obtain ⟨hksymbol, hktable, hkcolumns, hkref⟩ := hknames
  obtain ⟨hlsymbol, hltable, hlcolumns, hlref⟩ := hlnames
  have hchars := congrArg String.toList h
  unfold definition at hchars
  simp only [String.toList_append, List.append_assoc] at hchars
  obtain ⟨hsymbol, hrest⟩ := sqlName_append_inj hksymbol hlsymbol (List.append_cancel_left hchars)
  obtain ⟨hcolumns, hrest⟩ :=
    sqlNames_append_inj hkcolumns hlcolumns (List.append_cancel_left hrest)
  obtain ⟨htable, hrest⟩ := sqlName_append_inj hktable hltable (List.append_cancel_left hrest)
  obtain ⟨href, hrest⟩ := sqlNames_append_inj hkref hlref (List.append_cancel_left hrest)
  obtain ⟨hdelete, hrest⟩ := ReferenceAction.sql_append_inj (List.append_cancel_left hrest)
  -- nothing stands behind the last action
  have hupdate : k.onUpdate.sql.toList ++ [] = l.onUpdate.sql.toList ++ [] := by
    rw [List.append_nil, List.append_nil]
    exact List.append_cancel_left hrest
  cases k
  cases l
  rw [ForeignKey.mk.injEq]
  exact ⟨hsymbol, hcolumns, htable, href, (ReferenceAction.sql_append_inj hupdate).1, hdelete⟩

/-! ## The keys of a table -/

namespace Table

/-- **Definitions with one text are of tables with the same keys**: they have the same name, the same
columns in the same order, and the same primary indexes, other indexes and foreign keys in the same
order. Names must hold no backtick and no line feed, and what is written as it is no line feed;
comments and constant defaults may hold anything. -/
theorem keys_eq_of_definition_eq {t u : Table} (ht : t.columns ≠ []) (hu : u.columns ≠ [])
    (htnames : ∀ n ∈ t.names, '\x60' ∉ n.toList ∧ '\n' ∉ n.toList)
    (hunames : ∀ n ∈ u.names, '\x60' ∉ n.toList ∧ '\n' ∉ n.toList)
    (htverbatim : ∀ s ∈ t.verbatim, '\n' ∉ s.toList)
    (huverbatim : ∀ s ∈ u.verbatim, '\n' ∉ s.toList) (h : t.definition = u.definition) :
    t.name = u.name ∧ t.columns.map Column.name = u.columns.map Column.name ∧
      (t.indexes.filter Index.isPrimary).map Index.columns =
        (u.indexes.filter Index.isPrimary).map Index.columns ∧
      t.secondaryIndexes.map (fun i => (i.name, i.isUnique, i.columns, i.algorithm)) =
        u.secondaryIndexes.map (fun i => (i.name, i.isUnique, i.columns, i.algorithm)) ∧
      t.foreignKeys = u.foreignKeys := by
  obtain ⟨hopening, hlines⟩ := lines_eq_of_definition_eq ht hu (fun n hn => (htnames n hn).2)
    (fun n hn => (hunames n hn).2) htverbatim huverbatim h
  have htick : ∀ n ∈ t.names, '\x60' ∉ n.toList := fun n hn => (htnames n hn).1
  have hutick : ∀ n ∈ u.names, '\x60' ∉ n.toList := fun n hn => (hunames n hn).1
  -- from here on the lines are compared kind by kind, each kind with its own reading
  have hkind := fun kind => congrArg (List.filter fun l => LineKind.ofLine l = kind) hlines
  simp only [filter_definitionLines] at hkind
  refine ⟨?_, ?_, ?_, ?_, ?_⟩
  · have hchars := congrArg String.toList hopening
    unfold openingLine at hchars
    simp only [String.toList_append, List.append_assoc] at hchars
    exact (sqlName_append_inj (htick _ t.name_mem_names) (hutick _ u.name_mem_names)
      (List.append_cancel_left hchars)).1
  · refine map_eq_map_of_imp (fun c hc d hd => ?_) (hkind .column)
    exact Column.name_eq_of_sql_eq (htick _ (mem_names_of_column hc))
      (hutick _ (mem_names_of_column hd))
  · refine map_eq_map_of_imp (fun i hi j hj => ?_) (hkind .primary)
    obtain ⟨himem, hiprimary⟩ := List.mem_filter.mp hi
    obtain ⟨hjmem, hjprimary⟩ := List.mem_filter.mp hj
    exact Index.columns_eq_of_definition_eq hiprimary hjprimary
      (fun n hn => htick _ (mem_names_of_index himem (List.mem_cons_of_mem _ hn)))
      fun n hn => hutick _ (mem_names_of_index hjmem (List.mem_cons_of_mem _ hn))
  · refine map_eq_map_of_imp (fun i hi j hj hij => ?_) (hkind .secondary)
    obtain ⟨himem, hiprimary⟩ := List.mem_filter.mp hi
    obtain ⟨hjmem, hjprimary⟩ := List.mem_filter.mp hj
    obtain ⟨hname, hunique, hcolumns, halgorithm⟩ := Index.eq_of_definition_eq
      (by simpa using hiprimary) (by simpa using hjprimary)
      (fun n hn => htick _ (mem_names_of_index himem hn))
      (fun n hn => hutick _ (mem_names_of_index hjmem hn)) hij
    rw [hname, hunique, hcolumns, halgorithm]
  · have hid := map_eq_map_of_imp (g := id) (fun k hk l hl => ?_) (hkind .foreign)
    · simpa using hid
    · exact ForeignKey.eq_of_definition_eq (fun n hn => htick _ (mem_names_of_foreignKey hk hn))
        fun n hn => hutick _ (mem_names_of_foreignKey hl hn)

/-- Two tables that differ in how they are reported, and not in their text: one says what the other
leaves to be understood. A line feed in the comment and a key in the default break no line. -/
theorem keys_eq_of_definition_eq_reported :
    let c : Column :=
      { name := "a", rawType := "int", nullable := false
        default? := some (.literal "0\n  KEY"), autoIncrement := false, comment := "\n)" }
    let i : Index :=
      { name := "k", columns := ["a"], unique := false, primary := false, algorithm? := none }
    let k : ForeignKey :=
      { symbol := "f", columns := ["a"], refTable := "u", refColumns := ["b"]
        onUpdate := .cascade, onDelete := .setNull }
    let t : Table :=
      { name := "t", comment := "", engine? := none, charset? := none, collation? := none
        columns := [c], indexes := [i], foreignKeys := [k] }
    let u : Table :=
      { t with engine? := some "InnoDB", indexes := [{ i with algorithm? := some "BTREE" }] }
    t.definition = u.definition ∧ t ≠ u ∧
      t.secondaryIndexes.map (fun i => (i.name, i.isUnique, i.columns, i.algorithm)) =
        u.secondaryIndexes.map (fun i => (i.name, i.isUnique, i.columns, i.algorithm)) := by
  intro c i k t u
  have h : t.definition = u.definition := by
    have hname : Index.sameLetters "k" "PRIMARY" = false := by simp [Index.sameLetters]
    unfold definition createStatement
    simp [t, u, i, definitionLines, options, Index.definition, Index.algorithm, Index.isPrimary,
      Index.isUnique, hname]
  have hkeys := keys_eq_of_definition_eq (t := t) (u := u) (by simp [t]) (by simp [u, t])
    (by simp [names, t, c, i, k]) (by simp [names, t, u, c, i, k])
    (by simp [verbatim, t, c, i, Column.expression?])
    (by simp [verbatim, t, u, c, i, Column.expression?]) h
  exact ⟨h, by simp [t, u], hkeys.2.2.2.1⟩

end Table

end Tablewright

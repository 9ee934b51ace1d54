import Tablewright.Proofs.Dialect.RuleTable
import Tablewright.Proofs.Dialect.Spelling
import Tablewright.Proofs.Pattern.Whole

/-! # The built-in dialects as patterns

The rules of a built-in dialect say as functions what can be written as patterns too. `SpelledAs` relates
patterns to spellings, and `rulesOfSpellings` gives the rules of these. The patterns are common ones, which
the engine reads (`Pattern.engine`).

* `resolve_spellings`: the patterns of some spellings give a raw type the kind that their rules give.
* `mysql_kindOf`, `tidb_kindOf`: MySQL and TiDB are what their patterns find.
* `resolve_patterns_append`: tables of patterns in a row, for any library to rely on, with the two
  dialects.
* `patterns_too_heavy_together`: two tables that compile may not compile one behind the other. -/

namespace Tablewright.Dialect

open Pattern (FoundIn LawfulLibrary Library Regex Term engine fits fits_of_isLight)

/-! ## Rules of spellings -/

/-- The rules of some spellings. An ending that is not exact leaves the decision to the next one. -/
def rulesOfSpellings (spellings : List Spelling) : List Rule :=
  (spellings.filter fun s => s.ending.isExact).flatMap Spelling.rules

/-- Does the next spelling decide as a spelling does? -/
def Spelling.IsCovered (s next : Spelling) : Prop :=
  next.ending.isExact = true ∧ next.words = s.words ∧ next.ending.tail = s.ending.tail ∧
    next.kind = s.kind

instance (s next : Spelling) : Decidable (s.IsCovered next) :=
  inferInstanceAs (Decidable (_ ∧ _ ∧ _ ∧ _))

/-- Is each spelling exact, or does the next one decide as it does? -/
def Decided : List Spelling → Prop
  | [] => True
  | s :: rest => (s.ending.isExact = true ∨ ∃ next ∈ rest.head?, s.IsCovered next) ∧ Decided rest

instance decidableDecided : (spellings : List Spelling) → Decidable (Decided spellings)
  | [] => isTrue trivial
  | s :: rest =>
    have := decidableDecided rest
    inferInstanceAs (Decidable ((s.ending.isExact = true ∨ ∃ next ∈ rest.head?, s.IsCovered next) ∧
      Decided rest))

variable {raw : String}

/-- A spelling with an exact ending adds its rules in front. -/
theorem rulesOfSpellings_cons {s : Spelling} {rest : List Spelling} (h : s.ending.isExact = true) :
    rulesOfSpellings (s :: rest) = s.rules ++ rulesOfSpellings rest := by
  simp [rulesOfSpellings, h]

/-- A spelling whose ending is not exact adds no rule. -/
theorem rulesOfSpellings_cons_of_not {s : Spelling} {rest : List Spelling}
    (h : s.ending.isExact = false) : rulesOfSpellings (s :: rest) = rulesOfSpellings rest := by
  simp [rulesOfSpellings, h]

/-- The rules of two runs of spellings are the rules of the first, then those of the second. -/
theorem rulesOfSpellings_append (spellings spellings' : List Spelling) :
    rulesOfSpellings (spellings ++ spellings') =
      rulesOfSpellings spellings ++ rulesOfSpellings spellings' := by
  rw [rulesOfSpellings, List.filter_append, List.flatMap_append]
  rfl

/-- A spelling that is covered by another has the same rules. -/
theorem Spelling.IsCovered.rules_eq {s next : Spelling} (h : s.IsCovered next) :
    next.rules = s.rules := by
  obtain ⟨-, hwords, htail, hkind⟩ := h
  rw [rules, rules, hwords, htail, hkind]

/-- The first rule of a table decides when it accepts the text, else the rest of the table does. -/
theorem resolve_cons (rule : Rule) (table : List Rule) (raw : String) :
    resolve (rule :: table) raw =
      if rule.accepts (normalized raw) then .ok rule.kind else resolve table raw := by
  rw [resolve, resolve, List.find?_cons]
  cases rule.accepts (normalized raw) <;> rfl

/-- The rules for the words of a spelling give its kind. -/
theorem resolve_rules (s : Spelling) (h : Knows s.rules raw) : resolve s.rules raw = .ok s.kind := by
  obtain ⟨kind, hkind⟩ := exists_resolve_eq_ok_iff.mpr h
  obtain ⟨rule, hrule, -, rfl⟩ := exists_rule_of_resolve_eq_ok hkind
  obtain ⟨word, -, rfl⟩ := List.mem_map.mp hrule
  exact hkind

/-- A type the rules of a spelling know has the kind of that spelling, whatever stands after them. -/
theorem resolve_rules_append (s : Spelling) (h : Knows s.rules raw) (table : List Rule) :
    resolve (s.rules ++ table) raw = .ok s.kind := by
  rw [resolve_append, if_pos h, resolve_rules s h]

/-- **The patterns of spellings give a raw type the kind that the rules give to it.** -/
theorem resolve_spellings {spellings : List Spelling} (h : Decided spellings) (raw : String) :
    resolve (spellings.map Spelling.rule) raw = resolve (rulesOfSpellings spellings) raw := by
  induction spellings with
  | nil => rfl
  | cons s rest ih =>
      obtain ⟨hs, hrest⟩ := h
      have hknows (hfound : s.rule.accepts (normalized raw) = true) : Knows s.rules raw :=
        s.exists_accepts_of_foundIn hfound
      rw [List.map_cons, resolve_cons, ih hrest]
      cases hexact : s.ending.isExact with
      | true =>
          rw [rulesOfSpellings_cons hexact]
          split
          · rename_i hfound
            exact (resolve_rules_append s (hknows hfound) _).symm
          · rename_i hfound
            have hnot : ¬ Knows s.rules raw := fun ⟨rule, hrule, haccepts⟩ =>
              hfound (s.foundIn_of_accepts hexact hrule haccepts)
            rw [resolve_append, if_neg hnot]
      | false =>
          rw [rulesOfSpellings_cons_of_not hexact]
          split
          · -- the next spelling decides
            rename_i hfound
            obtain ⟨next, hnext, hcovered⟩ := hs.resolve_left (by simp [hexact])
            obtain ⟨rest, rfl⟩ := List.head?_eq_some_iff.mp hnext
            have hnextKnows : Knows next.rules raw := hcovered.rules_eq ▸ hknows hfound
            rw [rulesOfSpellings_cons hcovered.1, resolve_rules_append next hnextKnows]
            exact congrArg Except.ok hcovered.2.2.2.symm
          · rfl

/-! ## Patterns of spellings -/

/-- Are the patterns light ones, and those of the spellings? -/
def SpelledAs (patterns : List (String × ColumnKind)) (spellings : List Spelling) : Prop :=
  ∃ ts, (patterns.map Prod.fst).mapM Term.read = .ok ts ∧ (∀ t ∈ ts, t.isLight = true) ∧
    ts.map Term.regex = spellings.map Spelling.regex ∧
    patterns.map Prod.snd = spellings.map Spelling.kind

instance (patterns : List (String × ColumnKind)) (spellings : List Spelling) :
    Decidable (SpelledAs patterns spellings) :=
  match h : (patterns.map Prod.fst).mapM Term.read with
  | .error e => isFalse fun ⟨ts, hread, _⟩ => by simp [h] at hread
  | .ok ts => decidable_of_iff ((∀ t ∈ ts, t.isLight = true) ∧
      ts.map Term.regex = spellings.map Spelling.regex ∧
      patterns.map Prod.snd = spellings.map Spelling.kind)
    ⟨fun hts => ⟨ts, h, hts⟩, fun ⟨ts', hread, hts'⟩ => by
      rw [h] at hread
      cases hread
      exact hts'⟩

variable {patterns patterns' : List (String × ColumnKind)} {spellings spellings' : List Spelling}

/-- Patterns in a row are those of the spellings in a row. -/
theorem SpelledAs.append (h : SpelledAs patterns spellings) (h' : SpelledAs patterns' spellings') :
    SpelledAs (patterns ++ patterns') (spellings ++ spellings') := by
  obtain ⟨ts, hread, hlight, hregex, hkind⟩ := h
  obtain ⟨ts', hread', hlight', hregex', hkind'⟩ := h'
  refine ⟨ts ++ ts', ?_, List.forall_mem_append.mpr ⟨hlight, hlight'⟩, ?_, ?_⟩
  · rw [List.map_append, mapM_eq_ok_iff, List.map_append, List.map_append, mapM_eq_ok_iff.mp hread,
      mapM_eq_ok_iff.mp hread']
  · rw [List.map_append, List.map_append, hregex, hregex']
  · rw [List.map_append, List.map_append, hkind, hkind']

/-- The rule of a pattern that the engine reads accepts the texts in which its expression is found. -/
theorem ownRule_eq {pattern : String × ColumnKind} {t : Term} (hread : Term.read pattern.1 = .ok t)
    (hfits : fits [t] = true) : ownRule pattern = ⟨t.regex.foundIn, pattern.2⟩ := by
  have haccepts : (ownRule pattern).accepts = t.regex.foundIn := by
    funext text
    rw [Bool.eq_iff_iff, accepts_ownRule_iff, Pattern.foundIn_iff]
    simp [hread, hfits]
  rw [← haccepts]
  rfl

/-- The rules of the patterns, each on its own, are those of the spellings. -/
theorem SpelledAs.map_ownRule (h : SpelledAs patterns spellings) :
    patterns.map ownRule = spellings.map Spelling.rule := by
  obtain ⟨ts, hread, hlight, hregex, hkind⟩ := h
  induction patterns generalizing ts spellings with
  | nil =>
      obtain rfl := List.map_eq_nil_iff.mp hkind.symm
      rfl
  | cons pattern patterns ih =>
      obtain ⟨t, ts, ht, hts, rfl⟩ := mapM_cons_eq_ok hread
      obtain ⟨hlight, hlights⟩ := List.forall_mem_cons.mp hlight
      cases spellings with
      | nil => contradiction
      | cons s spellings =>
          obtain ⟨hregex, hregexes⟩ := List.cons.inj hregex
          obtain ⟨hkind, hkinds⟩ := List.cons.inj hkind
          have hfits : fits [t] = true :=
            fits_of_isLight (by simp) (List.forall_mem_singleton.mpr hlight)
          rw [List.map_cons, List.map_cons, ih ts hts hlights hregexes hkinds, ownRule_eq ht hfits,
            hregex, hkind]
          rfl

/-- **The table of the patterns decides as the rules of the spellings do.** -/
theorem SpelledAs.exists_rulesOfPatterns_eq (h : SpelledAs patterns spellings)
    (hlength : patterns.length ≤ 100) :
    ∃ table, rulesOfPatterns patterns = .ok table ∧
      ∀ raw, resolve table raw = resolve (spellings.map Spelling.rule) raw := by
  obtain ⟨ts, hread, hlight, -⟩ := id h
  have hcount : ts.length ≤ 100 := by
    rwa [length_of_mapM_eq_ok hread, List.length_map]
  have hrs := Regex.readAll_eq_ok_iff.mpr ⟨ts, hread, fits_of_isLight hcount hlight, rfl⟩
  obtain ⟨table, htable⟩ : ∃ table, rulesOfPatterns patterns = .ok table :=
    ⟨_, bind_eq_ok_iff.mpr ⟨_, Pattern.compile_eq_ok hrs, rfl⟩⟩
  refine ⟨table, htable, fun raw => ?_⟩
  rw [resolve_rulesOfPatterns htable, h.map_ownRule]

/-! ## MySQL and TiDB -/

/-- The patterns of MySQL. -/
def mysqlPatterns : List (String × ColumnKind) :=
  [("^(tinyint)\\b[(]1[)] unsigned", .bool),
   ("^(tinyint)\\b[(]1[)]", .bool),
   ("^(tinyint)\\b([(]\\d+[)])? unsigned", .uint8),
   ("^(tinyint)\\b([(]\\d+[)])?", .int8),
   ("^(smallint)\\b([(]\\d+[)])? unsigned", .uint16),
   ("^(smallint)\\b([(]\\d+[)])?", .int16),
   ("^(mediumint)\\b([(]\\d+[)])? unsigned", .uint32),
   ("^(mediumint)\\b([(]\\d+[)])?", .int32),
   ("^(int)\\b([(]\\d+[)])? unsigned", .uint32),
   ("^(int)\\b([(]\\d+[)])?", .int32),
   ("^(integer)\\b([(]\\d+[)])? unsigned", .uint32),
   ("^(integer)\\b([(]\\d+[)])?", .int32),
   ("^(bigint)\\b([(]\\d+[)])? unsigned", .uint64),
   ("^(bigint)\\b([(]\\d+[)])?", .int64),
   ("^(float)\\b([(]\\d+,\\d+[)])? unsigned", .float32),
   ("^(float)\\b([(]\\d+,\\d+[)])?", .float32),
   ("^(double)\\b([(]\\d+,\\d+[)])? unsigned", .float64),
   ("^(double)\\b([(]\\d+,\\d+[)])?", .float64),
   ("^(char)\\b[(]\\d+[)]", .string),
   ("^(varchar)\\b[(]\\d+[)]", .string),
   ("^(datetime)\\b([(]\\d+[)])?", .time),
   ("^(date)\\b([(]\\d+[)])?", .time),
   ("^(timestamp)\\b([(]\\d+[)])?", .time),
   ("^(time)\\b([(]\\d+[)])?", .time),
   ("^(tinytext)\\b", .string),
   ("^(mediumtext)\\b", .string),
   ("^(longtext)\\b", .string),
   ("^(text)\\b", .string),
   ("^(tinyblob)\\b", .bytes),
   ("^(mediumblob)\\b", .bytes),
   ("^(longblob)\\b", .bytes),
   ("^(blob)\\b", .bytes),
   ("^(binary)\\b[(]\\d+[)]", .bytes),
   ("^(varbinary)\\b[(]\\d+[)]", .bytes),
   ("^(bit)\\b[(]\\d+[)]", .bytes),
   ("^(json)\\b", .json),
   ("^(enum)\\b[(](.)+[)]", .enum),
   ("^(decimal)\\b[(]\\d+,\\d+[)]", .decimal),
   ("^(geometry)\\b", .string)]

/-- The patterns of the spellings that only TiDB reports. -/
def tidbExtraPatterns : List (String × ColumnKind) :=
  [("^(bool|boolean)\\b", .bool),
   ("^(decimal|numeric)\\b([(]\\d+(,\\d+)?[)])?", .decimal),
   ("^(real)\\b([(]\\d+,\\d+[)])?", .float64),
   ("^(year)\\b([(]\\d+[)])?", .int16),
   ("^(set)\\b[(](.)+[)]", .string),
   ("^(char|varchar)\\b", .string),
   ("^(binary|varbinary|bit)\\b", .bytes)]

/-- The spellings of MySQL. -/
def mysqlSpellings : List Spelling :=
  [.written "tinyint" [] (.withUnsigned .one) .bool,
   .written "tinyint" [] .one .bool,
   .written "tinyint" [] .unsigned .uint8,
   .written "tinyint" [] .maybeWidth .int8,
   .written "smallint" [] .unsigned .uint16,
   .written "smallint" [] .maybeWidth .int16,
   .written "mediumint" [] .unsigned .uint32,
   .written "mediumint" [] .maybeWidth .int32,
   .written "int" [] .unsigned .uint32,
   .written "int" [] .maybeWidth .int32,
   .written "integer" [] .unsigned .uint32,
   .written "integer" [] .maybeWidth .int32,
   .written "bigint" [] .unsigned .uint64,
   .written "bigint" [] .maybeWidth .int64,
   .written "float" [] (.withUnsigned .maybePrecision) .float32,
   .written "float" [] .maybePrecision .float32,
   .written "double" [] (.withUnsigned .maybePrecision) .float64,
   .written "double" [] .maybePrecision .float64,
   .written "char" [] .width .string,
   .written "varchar" [] .width .string,
   .written "datetime" [] .maybeWidth .time,
   .written "date" [] .maybeWidth .time,
   .written "timestamp" [] .maybeWidth .time,
   .written "time" [] .maybeWidth .time,
   .written "tinytext" [] .free .string,
   .written "mediumtext" [] .free .string,
   .written "longtext" [] .free .string,
   .written "text" [] .free .string,
   .written "tinyblob" [] .free .bytes,
   .written "mediumblob" [] .free .bytes,
   .written "longblob" [] .free .bytes,
   .written "blob" [] .free .bytes,
   .written "binary" [] .width .bytes,
   .written "varbinary" [] .width .bytes,
   .written "bit" [] .width .bytes,
   .written "json" [] .free .json,
   .written "enum" [] .members .enum,
   .written "decimal" [] .precision .decimal,
   .written "geometry" [] .free .string]

/-- The spellings that only TiDB reports. -/
def tidbExtraSpellings : List Spelling :=
  [.written "bool" ["boolean"] .free .bool,
   .written "decimal" ["numeric"] .maybeScale .decimal,
   .written "real" [] .maybePrecision .float64,
   .written "year" [] .maybeWidth .int16,
   .written "set" [] .members .string,
   .written "char" ["varchar"] .free .string,
   .written "binary" ["varbinary", "bit"] .free .bytes]

/-- The MySQL patterns are written from their spellings. -/
theorem spelledAs_mysql : SpelledAs mysqlPatterns mysqlSpellings := by decide +kernel

/-- The patterns TiDB adds are written from their spellings. -/
theorem spelledAs_tidbExtra : SpelledAs tidbExtraPatterns tidbExtraSpellings := by decide +kernel

/-- Every TiDB spelling is exact or followed by one that decides as it does. -/
theorem decided_tidb : Decided (mysqlSpellings ++ tidbExtraSpellings) := by decide

/-- Every MySQL spelling is exact or followed by one that decides as it does. -/
theorem decided_mysql : Decided mysqlSpellings := by decide

/-- The MySQL rules are those of the MySQL spellings. -/
theorem mysqlRules_eq : mysqlRules = rulesOfSpellings mysqlSpellings := rfl

/-- The TiDB rules are those of the MySQL spellings and of the ones TiDB adds. -/
theorem tidbRules_eq : tidbRules = rulesOfSpellings (mysqlSpellings ++ tidbExtraSpellings) := by
  rw [rulesOfSpellings_append]
  rfl

/-- **MySQL is what its patterns find.** -/
theorem mysql_kindOf :
    ∃ table, rulesOfPatterns mysqlPatterns = .ok table ∧ ∀ raw, mysql.kindOf raw = resolve table raw := by
  obtain ⟨table, htable, hresolve⟩ := spelledAs_mysql.exists_rulesOfPatterns_eq (by decide)
  refine ⟨table, htable, fun raw => ?_⟩
  rw [hresolve, resolve_spellings decided_mysql, ← mysqlRules_eq]
  rfl

/-- **TiDB is what its patterns find**, and these are those of MySQL with some more behind them. -/
theorem tidb_kindOf :
    ∃ table, rulesOfPatterns (mysqlPatterns ++ tidbExtraPatterns) = .ok table ∧
      ∀ raw, tidb.kindOf raw = resolve table raw := by
  have hspelled := spelledAs_mysql.append spelledAs_tidbExtra
  obtain ⟨table, htable, hresolve⟩ := hspelled.exists_rulesOfPatterns_eq (by decide)
  refine ⟨table, htable, fun raw => ?_⟩
  rw [hresolve, resolve_spellings decided_tidb, ← tidbRules_eq]
  rfl

/-! ## Tables of patterns in a row -/

/-- **The patterns of a second table decide about what those of the first one do not find**, whatever
library puts them together. Two tables of patterns, one behind the other, are a table unless the library
refuses the patterns of both taken together. A table knows the raw types in which one of its patterns is
found, and its refusals repeat the raw type.

MySQL and TiDB are tables of this kind, the second one with patterns behind those of the first. So every
raw type that the table of MySQL knows has the same kind in that of TiDB, and the two dialects, which are
the tables that the engine puts together, agree likewise. -/
theorem resolve_patterns_append [Library] [LawfulLibrary] {patterns patterns' : List (String × ColumnKind)}
    {table table' : List Rule} (h : rulesOfPatterns patterns = .ok table)
    (h' : rulesOfPatterns patterns' = .ok table') :
    ((∃ e, Library.compile ((patterns ++ patterns').map Prod.fst) = .error e ∧
        rulesOfPatterns (patterns ++ patterns') = .error e) ∨
      ∃ all, rulesOfPatterns (patterns ++ patterns') = .ok all ∧ ∀ raw,
        (resolve all raw = if Knows table raw then resolve table raw else resolve table' raw) ∧
        ∀ e, resolve all raw = .error e → e.raw = raw) ∧
    (∀ raw, Knows table raw ↔ ∃ pattern ∈ patterns, FoundIn pattern.1 (normalized raw)) ∧
    (∀ mysqlTable tidbTable, rulesOfPatterns mysqlPatterns = .ok mysqlTable →
      rulesOfPatterns (mysqlPatterns ++ tidbExtraPatterns) = .ok tidbTable →
      ∀ raw kind, resolve mysqlTable raw = .ok kind → resolve tidbTable raw = .ok kind) ∧
    (∃ mysqlTable tidbTable, @rulesOfPatterns engine mysqlPatterns = .ok mysqlTable ∧
      @rulesOfPatterns engine (mysqlPatterns ++ tidbExtraPatterns) = .ok tidbTable ∧
      ∀ raw, mysql.kindOf raw = resolve mysqlTable raw ∧ tidb.kindOf raw = resolve tidbTable raw) ∧
    ∀ raw kind, mysql.kindOf raw = .ok kind → tidb.kindOf raw = .ok kind := by
  refine ⟨?_, fun raw => knows_rulesOfPatterns_iff h, ?_, ?_, fun raw kind => resolve_append_eq_ok⟩
  · cases hall : rulesOfPatterns (patterns ++ patterns') with
    | error e => exact .inl ⟨e, rulesOfPatterns_eq_error_iff.mp hall, rfl⟩
    | ok all =>
        exact .inr ⟨all, rfl, fun raw =>
          ⟨resolve_rulesOfPatterns_append h h' hall raw, fun e => raw_of_resolve_eq_error⟩⟩
  · intro mysqlTable tidbTable hmysqlTable htidbTable raw kind
    exact resolve_rulesOfPatterns_append_eq_ok hmysqlTable htidbTable
  · -- with the engine both tables exist, and they are what the dialects look types up in
    obtain ⟨mysqlTable, hmysqlTable, hmysql⟩ := mysql_kindOf
    obtain ⟨tidbTable, htidbTable, htidb⟩ := tidb_kindOf
    exact ⟨mysqlTable, tidbTable, hmysqlTable, htidbTable, fun raw => ⟨hmysql raw, htidb raw⟩⟩

/-- A special spelling in front of the general one: together they are a table. -/
theorem resolve_patterns_append_tinyint :
    let special := [("^(tinyint)\\b[(]1[)]", ColumnKind.bool)]
    let general := [("^(tinyint)\\b", ColumnKind.int8)]
    ∃ table table' all, rulesOfPatterns special = .ok table ∧
      rulesOfPatterns general = .ok table' ∧ rulesOfPatterns (special ++ general) = .ok all ∧
      ∀ raw, resolve all raw =
        if Knows table raw then resolve table raw else resolve table' raw := by
  intro special general
  obtain ⟨table, htable⟩ : ∃ table, rulesOfPatterns special = .ok table :=
    exists_eq_ok_of_isOk (by decide +kernel)
  obtain ⟨table', htable'⟩ : ∃ table, rulesOfPatterns general = .ok table :=
    exists_eq_ok_of_isOk (by decide +kernel)
  have hlight : (rulesOfPatterns (special ++ general)).isOk = true := by decide +kernel
  rcases (resolve_patterns_append htable htable').1 with ⟨e, -, hrefused⟩ | ⟨all, hall, hresolve⟩
  · rw [hrefused] at hlight
    contradiction
  · exact ⟨table, table', all, htable, htable', hall, fun raw => (hresolve raw).1⟩

/-- **Patterns may be refused together**: two repetitions, each of which the engine takes on its own. -/
theorem patterns_too_heavy_together :
    ¬ ∀ [Library] [LawfulLibrary] (patterns patterns' : List (String × ColumnKind))
        (table table' : List Rule), rulesOfPatterns patterns = .ok table →
      rulesOfPatterns patterns' = .ok table' → ∀ raw, ∃ all,
        rulesOfPatterns (patterns ++ patterns') = .ok all ∧
          resolve all raw = if Knows table raw then resolve table raw else resolve table' raw := by
  intro hclaim
  obtain ⟨table, htable⟩ :
      ∃ table, rulesOfPatterns [("a\x7b0,100000\x7d", .string)] = .ok table :=
    exists_eq_ok_of_isOk (by decide +kernel)
  obtain ⟨table', htable'⟩ :
      ∃ table, rulesOfPatterns [("b\x7b0,100000\x7d", .int32)] = .ok table :=
    exists_eq_ok_of_isOk (by decide +kernel)
  have hheavy : (rulesOfPatterns
      [("a\x7b0,100000\x7d", .string), ("b\x7b0,100000\x7d", .int32)]).isOk = false := by
    decide +kernel
  obtain ⟨all, hall, -⟩ := hclaim _ _ table table' htable htable' "x"
  rw [List.singleton_append] at hall
  rw [hall] at hheavy
  contradiction

end Tablewright.Dialect

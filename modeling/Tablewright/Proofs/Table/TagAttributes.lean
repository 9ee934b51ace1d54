import Tablewright.Proofs.Table.TagSegments
import Tablewright.Proofs.Text.Infix

/-! # The attributes of a column in its definition and in its gorm tag

The definition of a column and its gorm tag both say whether the column may be null and whether the database
numbers its rows: the definition with the words `NOT NULL` and `AUTO_INCREMENT`, the tag with the segments
`not null` and `autoIncrement:true`. Types and defaults are written into both as they are, so the words are
told apart from these only if they are in neither.

* `Column.infix_definition_iff`: the words of a definition are the attributes of the column.
* `GormTag.filter_segments`: the segments that are about attributes.
* `GormTag.attributes_iff`: what the two say of one column. The tag says that rows are numbered only for a
  column of the primary key. -/

namespace Tablewright

open Text (RunsInto infix_append_iff_of_word infix_append_iff_of_front)

/-! ## The words of a definition -/

/-- The words that say what a column is like. -/
def attributeWords : List String :=
  ["NOT NULL", "AUTO_INCREMENT"]

/-- A text holds none of the words. -/
def FreeOfAttributes (s : String) : Prop :=
  ∀ w ∈ attributeWords, ¬w.toList <:+: s.toList

instance (s : String) : Decidable (FreeOfAttributes s) :=
  inferInstanceAs (Decidable (∀ _ ∈ _, _))

namespace Column

variable {c : Column} {w : String}

/-- The words that are true of a column. -/
def attributes (c : Column) : List String :=
  (if c.nullable then [] else ["NOT NULL"]) ++ (if c.autoIncrement then ["AUTO_INCREMENT"] else [])

/-- How a definition goes on behind the type is no end of such a word. -/
theorem not_runsInto_clause (hw : w ∈ attributeWords) (clause : String)
    (hclause : clause ∈ [" NOT NULL", " AUTO_INCREMENT", " DEFAULT "]) (rest : List Char) :
    ¬RunsInto w.toList (clause.toList ++ rest) := by
  have hall : ∀ w ∈ attributeWords, ∀ clause ∈ [" NOT NULL", " AUTO_INCREMENT", " DEFAULT "],
      ∀ v ∈ w.toList.tails, v ≠ [] → ¬v <+: clause.toList ∧ ¬clause.toList <+: v := by
    decide
  exact Text.not_runsInto_append (hall w hw clause hclause) rest

/-- A constant default does not get such a word from its quotes and escapes. -/
theorem infix_of_infix_sqlLiteral (hw : w ∈ attributeWords) {v : String}
    (h : w.toList <:+: " DEFAULT ".toList ++ (sqlLiteral v).toList) : w.toList <:+: v.toList := by
  -- a word cannot reach across either quote of the literal
  have hopening : ∀ w ∈ attributeWords, ¬RunsInto " DEFAULT '".toList w.toList ∧
      ¬w.toList <:+: " DEFAULT '".toList := by
    decide
  have hclosing : ∀ w ∈ attributeWords, ¬RunsInto w.toList "'".toList ∧
      ¬w.toList <:+: "'".toList := by
    decide
  -- nor is it made by escaping
  have hsigns : (Text.escapeSigns '\'').all fun d => ∀ w ∈ attributeWords, d ∉ w.toList := by
    decide
  have htext : " DEFAULT ".toList ++ (sqlLiteral v).toList =
      " DEFAULT '".toList ++ (Text.escape '\'' v.toList ++ "'".toList) := by
    rw [sqlLiteral, String.toList_append, String.toList_append, Text.toList_onChars]
    rfl
  rw [htext, infix_append_iff_of_front (hopening w hw).1,
    infix_append_iff_of_word (hclosing w hw).1] at h
  rcases h with h | h | h
  · exact absurd h (hopening w hw).2
  · exact Text.infix_of_infix_escape (fun d hd => List.all_iff_forall_prop.1 hsigns d hd w hw) h
  · exact absurd h (hclosing w hw).2

/-- The clause about new rows holds the word for numbered ones, and no other unless the default does. -/
theorem infix_defaultClause_iff (hw : w ∈ attributeWords)
    (hdefault : ∀ d, c.default? = some d → FreeOfAttributes d.text) :
    w.toList <:+: c.defaultClause.toList ↔ w = "AUTO_INCREMENT" ∧ c.autoIncrement = true := by
  have hauto : ∀ w ∈ attributeWords, w.toList <:+: " AUTO_INCREMENT".toList ↔ w = "AUTO_INCREMENT" := by
    decide
  -- no word is in the fixed texts, and none starts at the end of one
  have hfixed : ∀ w ∈ attributeWords, ¬w.toList <:+: "".toList ∧
      ¬w.toList <:+: " DEFAULT NULL".toList ∧ ¬w.toList <:+: " DEFAULT ".toList ∧
      ¬RunsInto " DEFAULT ".toList w.toList := by
    decide
  obtain ⟨hempty, hnull, hopening, hruns⟩ := hfixed w hw
  rw [defaultClause]
  by_cases hnumbered : c.autoIncrement = true
  · rw [if_pos hnumbered, and_iff_left hnumbered]
    exact hauto w hw
  · rw [if_neg hnumbered]
    refine iff_of_false ?_ fun h => hnumbered h.2
    cases hd : c.default? with
    | none =>
        show ¬w.toList <:+: (if c.nullable then " DEFAULT NULL" else "").toList
        split
        · exact hnull
        · exact hempty
    | some d =>
        have hfree : ¬w.toList <:+: d.text.toList := hdefault d hd w hw
        cases d with
        | literal v =>
            show ¬w.toList <:+: (" DEFAULT " ++ sqlLiteral (ColumnDefault.unquoted v)).toList
            rw [String.toList_append]
            intro h
            -- escaping makes no word, and trimming the quotes of the value makes none either
            have hquoted := infix_of_infix_sqlLiteral hw h
            rw [ColumnDefault.unquoted, Text.toList_onChars] at hquoted
            exact hfree (hquoted.trans (Text.isInfix_trimOf _ _))
        | expr e =>
            show ¬w.toList <:+: (" DEFAULT " ++ e).toList
            rw [String.toList_append, infix_append_iff_of_front hruns]
            exact not_or.2 ⟨hopening, hfree⟩

/-- No end of such a word begins the clause about new rows. -/
theorem not_runsInto_defaultClause (hw : w ∈ attributeWords) (c : Column) :
    ¬RunsInto w.toList c.defaultClause.toList := by
  have hclause (clause : String) (h : clause ∈ [" NOT NULL", " AUTO_INCREMENT", " DEFAULT "])
      (rest : String) : ¬RunsInto w.toList (clause ++ rest).toList := by
    rw [String.toList_append]
    exact not_runsInto_clause hw clause h rest.toList
  rw [defaultClause]
  split
  · exact hclause " AUTO_INCREMENT" (by decide) ""
  split
  · exact hclause " DEFAULT " (by decide) _
  · exact hclause " DEFAULT " (by decide) _
  · split
    · exact hclause " DEFAULT " (by decide) "NULL"
    · exact Text.not_runsInto_nil _

/-- **The words of a definition are the attributes of the column**, whatever its type and its default, as
long as these hold no such word. -/
theorem infix_definition_iff (hw : w ∈ attributeWords) (htype : FreeOfAttributes c.rawType)
    (hdefault : ∀ d, c.default? = some d → FreeOfAttributes d.text) :
    w.toList <:+: c.definition.toList ↔ w ∈ c.attributes := by
  -- the type and the clause about null, then the clause about new rows
  have hnull : w.toList <:+: (c.rawType ++ if c.nullable then "" else " NOT NULL").toList ↔
      w = "NOT NULL" ∧ c.nullable = false := by
    have hall : ∀ w ∈ attributeWords, w.toList <:+: " NOT NULL".toList ↔ w = "NOT NULL" := by
      decide
    rw [String.toList_append]
    cases c.nullable with
    | true =>
        rw [if_pos rfl, String.toList_empty, List.append_nil]
        exact iff_of_false (htype w hw) fun h => Bool.false_ne_true h.2.symm
    | false =>
        have hruns : ¬RunsInto w.toList " NOT NULL".toList := by
          simpa using not_runsInto_clause hw " NOT NULL" (by decide) []
        rw [if_neg Bool.false_ne_true, infix_append_iff_of_word hruns, or_iff_right (htype w hw),
          and_iff_left rfl]
        exact hall w hw
  rw [definition, String.toList_append, infix_append_iff_of_word (not_runsInto_defaultClause hw c),
    hnull, infix_defaultClause_iff hw hdefault, attributes]
  cases c.nullable <;> cases c.autoIncrement <;> simp

end Column

namespace GormTag

variable {t : Table} {c : Column}

/-! ## The segments about attributes -/

/-- Is a segment about an attribute? -/
def isAttribute (s : String) : Bool :=
  s == "not null" || s == "autoIncrement:true"

/-- A segment that starts with another letter is not. -/
theorem isAttribute_append (opening : String) {x : Char} {xs : List Char}
    (hopening : opening.toList = x :: xs) (hx : x ≠ 'n' ∧ x ≠ 'a') (s : String) :
    isAttribute (opening ++ s) = false := by
  have hne (word : String) (y : Char) (ys : List Char) (hword : word.toList = y :: ys) (hy : x ≠ y) :
      (opening ++ s == word) = false := by
    rw [beq_eq_false_iff_ne]
    rintro rfl
    rw [String.toList_append, hopening, List.cons_append] at hword
    exact hy (List.cons.inj hword).1
  rw [isAttribute, hne "not null" 'n' _ rfl hx.1, hne "autoIncrement:true" 'a' _ rfl hx.2]
  rfl

/-- **The segments about attributes**: one if the column may not be null, and one if the database numbers
its rows and it is in the primary key. -/
theorem filter_segments (t : Table) (c : Column) (withComment : Bool) :
    (segments t c withComment).filter isAttribute =
      (if c.nullable then [] else ["not null"]) ++
        if (keyPosition? t c).isSome && c.autoIncrement then ["autoIncrement:true"] else [] := by
  -- what the opening does not say is left to the two words themselves
  have hopenings : ∀ opening ∈ textOpenings ++ ["primaryKey", "uniqueIndex:", "index:"], ∀ s,
      Option.guard isAttribute (opening ++ s) = none := by
    intro opening hopening s
    have hletter : ∀ opening ∈ textOpenings ++ ["primaryKey", "uniqueIndex:", "index:"],
        ∃ x xs, opening.toList = x :: xs ∧ x ≠ 'n' ∧ x ≠ 'a' := by
      simp [textOpenings]
    obtain ⟨x, xs, hcons, hx⟩ := hletter opening hopening
    rw [Option.guard, isAttribute_append opening hcons hx]
    rfl
  have hprimary (key : Index) (position : Nat) :
      (primarySegments c key position).filterMap (Option.guard isAttribute) =
        if c.autoIncrement then ["autoIncrement:true"] else [] := by
    rw [primarySegments, List.filterMap_append, filterMap_singleton,
      hopenings "primaryKey" (by decide), Option.toList_none, List.append_nil]
    cases c.autoIncrement <;> rfl
  have hindex (i : Index) : (indexSegment? c.name i).bind (Option.guard isAttribute) = none := by
    rw [indexSegment?]
    cases i.position? c.name with
    | none => rfl
    | some position =>
        rw [Option.map_some, Option.bind_some, String.append_assoc]
        split
        · exact hopenings "uniqueIndex:" (by decide) _
        · exact hopenings "index:" (by decide) _
  have hindexes : t.secondaryIndexes.filterMap
      (fun i => (indexSegment? c.name i).bind (Option.guard isAttribute)) = [] :=
    List.filterMap_eq_nil_iff.2 fun i _ => hindex i
  rw [← List.filterMap_eq_filter,
    filterMap_segments fun opening h => hopenings opening (List.mem_append_left _ h), hindexes,
    List.append_nil]
  congr 1
  cases keyPosition? t c with
  | none => rfl
  | some k => exact hprimary k.1 k.2

/-- A segment about an attribute is read off a tag exactly if the tag is made with it. -/
theorem mem_readSegments_iff (h : Plain t c) (withComment : Bool) {s : String}
    (hs : isAttribute s = true) :
    s.toList ∈ readSegments (tag t c withComment) ↔
      s ∈ (if c.nullable then [] else ["not null"]) ++
        if (keyPosition? t c).isSome && c.autoIncrement then ["autoIncrement:true"] else [] := by
  rw [readSegments_tag h, List.mem_map_of_injective fun _ _ => String.toList_injective,
    ← filter_segments t c, List.mem_filter, and_iff_left hs]

/-! ## Definitions and tags -/

/-- **What the definition and the tag of a column say of its attributes.** The tag says that the column may
not be null exactly if the definition does. It says that the database numbers the rows exactly if the
definition does and the column is in the primary key of the table. -/
theorem attributes_iff (h : Plain t c) (htype : FreeOfAttributes c.rawType)
    (hdefault : ∀ d, c.default? = some d → FreeOfAttributes d.text) (withComment : Bool) :
    ("not null".toList ∈ readSegments (tag t c withComment) ↔
      "NOT NULL".toList <:+: c.definition.toList) ∧
    ("autoIncrement:true".toList ∈ readSegments (tag t c withComment) ↔
      "AUTO_INCREMENT".toList <:+: c.definition.toList ∧ (keyPosition? t c).isSome = true) := by
  have hwords {w : String} (hw : w ∈ attributeWords) :
      w.toList <:+: c.definition.toList ↔ w ∈ c.attributes :=
    Column.infix_definition_iff hw htype hdefault
  constructor
  · rw [mem_readSegments_iff h withComment rfl, hwords (by decide), Column.attributes]
    cases c.nullable <;> simp
  · rw [mem_readSegments_iff h withComment rfl, hwords (by decide), Column.attributes]
    cases c.nullable <;> cases c.autoIncrement <;> simp

/-- A column of the primary key whose comment looks like segments, and a column outside of it whose default
looks like an attribute. -/
theorem attributes_iff_key :
    let id : Column := { (default : Column) with
      name := "id", rawType := "bigint", autoIncrement := true, comment := "x;not null" }
    let age : Column := { (default : Column) with
      name := "age", rawType := "int", nullable := true, default? := some (.literal "not null") }
    let key : Index := { (default : Index) with name := "PRIMARY", columns := ["id"] }
    let t : Table := { (default : Table) with name := "t", columns := [id, age], indexes := [key] }
    (Plain t id ∧ FreeOfAttributes id.rawType ∧
        "not null".toList ∈ readSegments (tag t id true) ∧
        "autoIncrement:true".toList ∈ readSegments (tag t id true)) ∧
      Plain t age ∧ FreeOfAttributes age.rawType ∧ FreeOfAttributes "not null" ∧
        "not null".toList ∉ readSegments (tag t age true) ∧
        "autoIncrement:true".toList ∉ readSegments (tag t age true) := by
  intro id age key t
  have hid : Plain t id := ⟨by decide, by decide, (fun _ hd => nomatch hd), by decide⟩
  have hage : Plain t age := ⟨by decide, by decide, (fun d hd => by cases hd; decide), by decide⟩
  have hdefault : FreeOfAttributes "not null" := by decide
  have hid' := attributes_iff hid (by decide) (fun _ hd => nomatch hd) true
  have hage' := attributes_iff hage (by decide) (fun d hd => by cases hd; exact hdefault) true
  refine ⟨⟨hid, by decide, hid'.1.2 (by decide +kernel), hid'.2.2 (by decide +kernel)⟩, hage, by decide,
    hdefault, fun h => ?_, fun h => ?_⟩
  · exact absurd (hage'.1.1 h) (by decide +kernel)
  · exact absurd (hage'.2.1 h) (by decide +kernel)

/-- The definition of a column outside the primary key says that the database numbers its rows, and its tag
does not. -/
theorem attributes_disagree :
    let id : Column := { (default : Column) with
      name := "id", rawType := "bigint", autoIncrement := true }
    let key : Index := { (default : Index) with name := "uk_id", columns := ["id"], unique := true }
    let t : Table := { (default : Table) with name := "t", columns := [id], indexes := [key] }
    Plain t id ∧ FreeOfAttributes id.rawType ∧ id.default? = none ∧
      id.definition = "bigint NOT NULL AUTO_INCREMENT" ∧
      tag t id true = "gorm:\"column:id;type:bigint;not null;uniqueIndex:uk_id\"" ∧
      ¬("autoIncrement:true".toList ∈ readSegments (tag t id true) ↔
        "AUTO_INCREMENT".toList <:+: id.definition.toList) := by
  intro id key t
  refine ⟨⟨by decide, by decide, (fun _ hd => nomatch hd), by decide⟩, by decide, rfl, by decide +kernel,
    by decide +kernel, ?_⟩
  have hwords : "AUTO_INCREMENT".toList <:+: id.definition.toList := by decide +kernel
  have hsegments : "autoIncrement:true".toList ∉ readSegments (tag t id true) := by decide +kernel
  exact fun h => hsegments (h.2 hwords)

end GormTag

end Tablewright

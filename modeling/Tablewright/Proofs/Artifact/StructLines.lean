import Tablewright.Proofs.Artifact.NameLiterals
import Tablewright.Proofs.Entity.RuledTypes
import Tablewright.Proofs.Entity.Runs
import Tablewright.Proofs.Naming.Characters
import Tablewright.Proofs.Naming.Identifier
import Tablewright.Proofs.Table.TagEnd

/-! # The lines of a struct

A struct has one line for each field as long as nothing on the line holds a line feed. The comment of a
column comes to the line in three ways. At the end of the line and in the gorm tag it is put on one line
first, whatever it holds. The value that a directive in it gives to the `json` tag is written as it is, so
a line feed inside the directive breaks the line.

* `Field.oneLine_tags_iff`: the tags of a built field.
* `GoModel.linePerField_iff`: the lines of a struct.
* `GoModel.struct_lines`: for a built table, only the value of such a directive can break them.
* `GoModel.struct_line_broken`: and it does. -/

namespace Tablewright

open Text (OneLine ended oneLine_append oneLine_intercalate oneLine_singleLine)

/-! ## The texts that a line shows -/

/-- The texts of a table and of options that struct lines show as they are have no line feed. -/
structure OneLineTexts (o : Options) (t : Table) : Prop where
  columns : ∀ c ∈ t.columns, GormTag.Free '\n' t c
  replacements : ∀ key r, o.typeOverrides.get? key = some r → OneLine r.ident
  tagNames : ∀ name ∈ o.tags.keys, OneLine name

/-- The types that columns have if they are not replaced are spelled on one line. -/
theorem GoType.oneLine_of_mem_standard {type : GoType} (h : type ∈ standard) : OneLine type.ident := by
  have hall : ∀ type ∈ standard, OneLine type.ident := by decide +kernel
  exact hall type h

namespace Field

variable {o : Options} {t : Table} {c : Column} {kind : ColumnKind}

/-- Marking a type as nullable adds no line break. -/
theorem oneLine_goTypeIdent_iff {f : Field} : OneLine f.goTypeIdent ↔ OneLine f.goType.ident := by
  have hstar : OneLine "*" := by decide
  rw [goTypeIdent]
  split
  · rw [oneLine_append, and_iff_right hstar]
  · exact Iff.rfl

/-- The type of a built field is a standard one or a replacement. -/
theorem oneLine_goType_ofKind (h : OneLineTexts o t) : OneLine (ofKind o t c kind).goType.ident := by
  have hstandard {type : GoType} (hmem : type ∈ GoType.ofKind kind :: GoType.ruled kind) :
      OneLine type.ident :=
    GoType.oneLine_of_mem_standard (List.mem_flatMap.mpr ⟨kind, kind.mem_all, hmem⟩)
  rw [goType_ofKind]
  cases hruled : (ofKind o t c kind).ruledType? o with
  | some type =>
      have hmem := mem_ruled_of_ruledType? hruled
      rw [kind_ofKind] at hmem
      exact hstandard (List.mem_cons_of_mem _ hmem)
  | none =>
      rw [Option.getD_none, Options.baseType]
      cases hreplaced : o.typeOverride? t.name c.name with
      | some r => exact h.replacements _ r hreplaced
      | none => exact hstandard List.mem_cons_self

/-! ### Tags -/

/-- The tags of a built field are its gorm tag and those that the options ask for. -/
theorem mem_tags_ofKind {tag : String} :
    tag ∈ (ofKind o t c kind).tags ↔
      tag = GormTag.tag t c (!o.disableCommentTag) ∨
        tag ∈ requestedTags o (ofColumn o t c kind) := by
  rw [ofKind, tags_transform, mem_foldl_addTag]
  exact or_congr_left List.mem_singleton

/-- The value that a directive gives to the `json` tag is written as it is, whatever the style is. -/
theorem tagValue?_of_jsonTag? {f : Field} {style v : String} (h : Comment.jsonTag? f.comment = some v) :
    tagValue? o f "json" style = some v := by
  rw [tagValue?, if_pos rfl, h]

/-- The value of a tag is on one line unless a directive has given it. -/
theorem oneLine_tagValue {f : Field} {tag style v : String} (h : tagValue? o f tag style = some v) :
    OneLine v ∨ tag = "json" ∧ Comment.jsonTag? f.comment = some v := by
  rw [tagValue?] at h
  split at h
  · rename_i value hvalue
    obtain rfl := Option.some.inj h
    split at hvalue
    · rename_i hjson
      exact .inr ⟨hjson, hvalue⟩
    · contradiction
  · obtain ⟨style, -, h⟩ := Option.bind_eq_some_iff.mp h
    dsimp only at h
    split at h
    · contradiction
    · obtain rfl := Option.some.inj h
      refine .inl (oneLine_append.mpr ⟨oneLine_append.mpr ⟨style.newline_notMem_apply f.name, ?_⟩, ?_⟩)
      · split <;> decide
      · split <;> decide

/-- **The tags of a built field are on one line** exactly if the value of a directive that goes into the
`json` tag is, whatever else the comment holds. -/
theorem oneLine_tags_iff (h : OneLineTexts o t) (hc : c ∈ t.columns) :
    (∀ tag ∈ (ofKind o t c kind).tags, OneLine tag) ↔
      ("json" ∈ o.tags.keys → ∀ v, Comment.jsonTag? c.comment = some v → OneLine v) := by
  simp only [mem_tags_ofKind, requestedTags, List.mem_filterMap, Option.map_eq_some_iff]
  constructor
  · intro hall hjson v hv
    obtain ⟨⟨_, style⟩, hentry, rfl⟩ := List.mem_map.mp hjson
    have htag := hall _ (.inr ⟨("json", style), hentry, v, tagValue?_of_jsonTag? hv, rfl⟩)
    rw [renderTag, oneLine_append, oneLine_append] at htag
    exact htag.1.2
  · rintro hdirective _ (rfl | ⟨⟨name, style⟩, hentry, v, hv, rfl⟩)
    · exact GormTag.newline_notMem_tag (h.columns c hc) _
    · have hkey : name ∈ o.tags.keys := List.mem_map_of_mem hentry
      have hquote : OneLine ":\"" ∧ OneLine "\"" := by decide
      -- only a value that the comment asks for can have a break
      have hvalue : OneLine v := by
        rcases oneLine_tagValue hv with hone | ⟨rfl, hjson⟩
        · exact hone
        · exact hdirective hkey v hjson
      rw [renderTag, oneLine_append, oneLine_append, oneLine_append]
      exact ⟨⟨⟨h.tagNames name hkey, hquote.1⟩, hvalue⟩, hquote.2⟩

end Field

/-! ## The lines of a struct -/

namespace Artifact.GoModel

/-- A text with one line for each field, in order, which starts with a tab, the name of the field and a
space. -/
def LinePerField (fields : List Field) (block : String) : Prop :=
  ∃ ls, block = ended ls ∧ (∀ l ∈ ls, OneLine l) ∧
    List.Forall₂ (fun f l => ∃ rest, l = "\t" ++ f.goName ++ " " ++ rest) fields ls

/-- What stands between the braces of a struct. -/
def block (fields : List Field) : String :=
  String.join (fields.map fun f => fieldLine f ++ "\n")

/-- The line of a field starts with its name. -/
theorem exists_fieldLine_eq (f : Field) : ∃ rest, fieldLine f = "\t" ++ f.goName ++ " " ++ rest := by
  simp only [fieldLine, String.append_assoc]
  exact ⟨_, rfl⟩

/-- **A struct has a line for each field** exactly if what is written for each of them is on one line. -/
theorem linePerField_iff {fields : List Field} :
    LinePerField fields (block fields) ↔ ∀ f ∈ fields, OneLine (fieldLine f) := by
  have hblock : block fields = ended (fields.map fieldLine) := by
    rw [block, ended, List.map_map]
    rfl
  rw [← List.forall_mem_map (P := OneLine), hblock]
  constructor
  · rintro ⟨ls, hls, hone, hstart⟩
    have hlength : ls.length = (fields.map fieldLine).length := by
      rw [List.length_map, hstart.length_eq]
    exact Text.newline_notMem_of_ended_eq hls.symm hlength hone
  · intro hone
    refine ⟨fields.map fieldLine, rfl, hone, ?_⟩
    rw [List.forall₂_map_right_iff, List.forall₂_same]
    exact fun f _ => exists_fieldLine_eq f

/-- The line of a field is one line if its tags are. -/
theorem oneLine_fieldLine_iff {f : Field} (hname : OneLine f.goName) (htype : OneLine f.goTypeIdent) :
    OneLine (fieldLine f) ↔ ∀ tag ∈ f.tags, OneLine tag := by
  have hsigns : OneLine "" ∧ OneLine "\t" ∧ OneLine " " ∧ OneLine " `" ∧ OneLine "`" ∧ OneLine " // " := by
    decide
  obtain ⟨hempty, htab, hspace, hopen, hclose, hslashes⟩ := hsigns
  have htags : OneLine (if f.tags = [] then "" else " `" ++ String.intercalate " " f.tags ++ "`") ↔
      ∀ tag ∈ f.tags, OneLine tag := by
    split
    · rename_i hnone
      simp [hnone, hempty]
    · rw [oneLine_append, oneLine_append, and_iff_right hopen, and_iff_left hclose,
        oneLine_intercalate hspace]
  -- the comment is put on one line, whatever it holds
  have hend : OneLine (if Text.onChars Text.singleLine f.comment = "" then ""
      else " // " ++ Text.onChars Text.singleLine f.comment) := by
    split
    · exact hempty
    · exact oneLine_append.mpr ⟨hslashes, oneLine_singleLine f.comment⟩
  rw [fieldLine]
  simp only [oneLine_append, htags]
  exact ⟨fun h => h.1.2, fun h => ⟨⟨⟨⟨⟨htab, hname⟩, hspace⟩, htype⟩, h⟩, hend⟩⟩

/-- The line in front of a struct is one line, whatever the comment holds. -/
theorem exists_docLine_eq {name : String} (hname : OneLine name) (comment : String) :
    ∃ l, docLine name comment = l ++ "\n" ∧ OneLine l := by
  have hslashes : OneLine "// " := by decide
  have hspace : OneLine " " := by decide
  have hfront : OneLine ("// " ++ name) := oneLine_append.mpr ⟨hslashes, hname⟩
  rw [docLine]
  split
  · exact ⟨_, rfl, hfront⟩
  · exact ⟨_, rfl, oneLine_append.mpr ⟨oneLine_append.mpr ⟨hfront, hspace⟩, oneLine_singleLine comment⟩⟩

/-- A Go identifier is on one line. -/
theorem oneLine_of_isGoIdentifier {s : String} (h : Naming.isGoIdentifier s = true) : OneLine s :=
  Naming.notMem_of_isGoIdentifier h (by decide) (by decide)

variable {m : Dialect.Mapper} {o : Options} {t : Table} {e : Entity} {g : GoModel} {text : String}

/-- **The lines of a struct.** The model of a built table holds its struct behind one line for the comment
of the table, whatever that comment is. Between the braces there is one line for each field, in order,
which starts with a tab, the name of the field and a space, exactly if no directive in the comment of a
column puts a line feed into the `json` tag. Everything else in the comments is put on one line. -/
theorem struct_lines (hbuild : Entity.build m o t = .ok e) (htexts : OneLineTexts o t)
    (hemit : g.emit [e] = .ok text) :
    text = g.header.render "//" ++ "package " ++ g.package ++ "\n\n" ++ importBlock (imports [e]) ++
        (docLine e.structName e.comment ++ "type " ++ e.structName ++ " struct \x7b\n" ++
          block e.fields ++ "\x7d\n\n") ++ Go.source [.func (nameMethod e)] ∧
      (∃ l, docLine e.structName e.comment = l ++ "\n" ∧ OneLine l) ∧
      (LinePerField e.fields (block e.fields) ↔
        ∀ c ∈ t.columns, "json" ∈ o.tags.keys →
          ∀ v, Comment.jsonTag? c.comment = some v → OneLine v) := by
  obtain ⟨hstruct, hnames⟩ := (exists_emit_iff g e).mp ⟨text, hemit⟩
  refine ⟨emit_eq_source hemit, exists_docLine_eq (oneLine_of_isGoIdentifier hstruct) _, ?_⟩
  rw [linePerField_iff]
  refine (forall_mem_iff_of_forall₂ (Entity.forall₂_ofKind_of_build hbuild) fun c hc f hf hcf => ?_).symm
  -- the emitter has checked the names, so only the tags can break a line
  have hname : OneLine f.goName := oneLine_of_isGoIdentifier (hnames _ (List.mem_map_of_mem hf))
  obtain ⟨kind, goName, rfl⟩ := hcf
  have htype : OneLine ((Field.ofKind o t c kind).named goName).goTypeIdent :=
    Field.oneLine_goTypeIdent_iff.mpr (Field.oneLine_goType_ofKind htexts)
  rw [oneLine_fieldLine_iff hname htype, ← Field.oneLine_tags_iff htexts hc]
  rfl

/-- Without replacements and with the `json` tag only, the names and types of the columns are to be on one
line. -/
theorem oneLineTexts_standard
    (h : ∀ c ∈ t.columns, '\n' ∉ c.name.toList ∧ '\n' ∉ c.rawType.toList ∧ c.default? = none)
    (hindexes : t.indexes = []) : OneLineTexts .standard t where
  columns c hc := by
    obtain ⟨hname, htype, hdefault⟩ := h c hc
    refine ⟨hname, htype, fun d hd => ?_, fun i hi => ?_⟩
    · rw [hdefault] at hd
      contradiction
    · rw [hindexes] at hi
      contradiction
  replacements key r hr := by contradiction
  tagNames := by decide

/-- The comments of the table and of its columns have several lines, and directives between them. -/
theorem struct_lines_user :
    let column (name comment : String) : Column :=
      { (default : Column) with name := name, rawType := "int", comment := comment }
    let t : Table :=
      { (default : Table) with
        name := "user"
        comment := "users\n\ttype X struct"
        columns := [column "id" "number\n[@affix\n]\r\nof `it`", column "age" "\n[@jsontag:\n years\n]\n"] }
    let e : Entity := .ofKinds .standard t [.int32, .int32]
    Entity.build Dialect.mysql .standard t = .ok e ∧ OneLineTexts .standard t ∧
      (∃ text, (default : GoModel).emit [e] = .ok text) ∧ LinePerField e.fields (block e.fields) := by
  intro column t e
  have hkinds : t.kinds Dialect.mysql = .ok [.int32, .int32] := by decide +kernel
  have hbuild : Entity.build Dialect.mysql .standard t = .ok e := by
    rw [Entity.build_eq, hkinds]
    rfl
  have htexts : OneLineTexts .standard t := oneLineTexts_standard (by decide) rfl
  obtain ⟨text, htext⟩ : ∃ text, (default : GoModel).emit [e] = .ok text := by
    rw [exists_emit_iff]
    decide +kernel
  obtain ⟨-, -, hlines⟩ := struct_lines hbuild htexts htext
  have hvalues : ∀ c ∈ t.columns, ∀ v ∈ Comment.jsonTag? c.comment, OneLine v := by decide +kernel
  exact ⟨hbuild, htexts, ⟨text, htext⟩, hlines.mpr fun c hc _ => hvalues c hc⟩

/-- **A directive breaks a struct line**: its value has a line feed, which goes into the `json` tag. -/
theorem struct_line_broken :
    ¬∀ (m : Dialect.Mapper) (o : Options) (t : Table) (e : Entity) (g : GoModel) (text : String),
      Entity.build m o t = .ok e → OneLineTexts o t → g.emit [e] = .ok text →
        LinePerField e.fields (block e.fields) := by
  intro hclaim
  let t : Table :=
    { (default : Table) with
      name := "t"
      columns :=
        [{ (default : Column) with name := "a", rawType := "int", comment := "[@jsontag: x\ny]" }] }
  let e : Entity := .ofKinds .standard t [.int32]
  have hbuild : Entity.build Dialect.mysql .standard t = .ok e := by rfl
  have htexts : OneLineTexts .standard t := oneLineTexts_standard (by decide) rfl
  obtain ⟨text, htext⟩ : ∃ text, (default : GoModel).emit [e] = .ok text := by
    rw [exists_emit_iff]
    decide +kernel
  have hlines := linePerField_iff.mp (hclaim _ _ _ _ _ _ hbuild htexts htext)
  have hbroken : ¬∀ f ∈ e.fields, OneLine (fieldLine f) := by decide +kernel
  exact hbroken hlines

end Artifact.GoModel

end Tablewright

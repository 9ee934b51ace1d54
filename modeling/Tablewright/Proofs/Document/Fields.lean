import Tablewright.Config
import Tablewright.Proofs.Json.Faithful
import Tablewright.Table.Document

/-! # The fields of documents

Which fields the documents of databases and of configurations have, in their declared order, each
with what stands for it where it is left out. The formats are the ones of these records, and so a
database and a configuration are read back from the text that is written for them.

* `Documented`: the records that documents are made of, with their fields.
* `Documented.isRecord`: the formats of these records are made of these fields.
* `ofText_write`: what is written is read back. -/

namespace Tablewright

open Json (Format RecordPart)

/-! ## Databases -/

/-- A default value is read back by its tag. -/
theorem ColumnDefault.faithful : ColumnDefault.format.Faithful where
  printable d := by
    cases d <;> exact .record (List.forall_mem_singleton.mpr (.text _))
  ne_null d := by
    cases d <;> exact Json.noConfusion
  fits d := by
    cases d <;>
      simp [Json.Fits, ColumnDefault.format, Json.record, Json.ofText, Json.fault?,
        Json.choiceFault?, Json.text?, Json.scalarFault?]
  decode_encode d := by
    cases d <;> rfl

/-- An action is read back by its words. -/
theorem ReferenceAction.faithful : ReferenceAction.format.Faithful :=
  .word fun a => by cases a <;> rfl

/-- The fields of a column. -/
def Column.parts : List (String × RecordPart Column) :=
  [("name", .required .text "" Column.name),
   ("type", .required .text "" Column.rawType),
   ("nullable", .defaulted .flag false Column.nullable),
   ("default", .nullable ColumnDefault.format Column.default?),
   ("auto_increment", .defaulted .flag false Column.autoIncrement),
   ("comment", .defaulted .text "" Column.comment)]

/-- The format of columns is made of these fields. -/
theorem Column.isRecord : Column.format.IsRecord Column.parts where
  shape_eq := rfl
  nodup := by decide
  encode_eq _ := rfl
  get_decode j := by
    simp only [Column.parts, List.forall_mem_cons]
    exact ⟨rfl, rfl, rfl, rfl, rfl, rfl, List.forall_mem_nil _⟩
  ext x y h := by
    simp only [Column.parts, List.forall_mem_cons] at h
    obtain ⟨hname, hrawType, hnullable, hdefault, hautoIncrement, hcomment, -⟩ := h
    exact (Column.mk.injEq ..).mpr ⟨hname, hrawType, hnullable, hdefault, hautoIncrement, hcomment⟩

/-- A column is read back, its default value included. -/
theorem Column.faithful : Column.format.Faithful := by
  refine Column.isRecord.faithful ?_
  simp only [Column.parts, List.forall_mem_cons]
  exact ⟨.text, .text, .flag, ColumnDefault.faithful, .flag, .text, List.forall_mem_nil _⟩

/-- The fields of an index. -/
def Index.parts : List (String × RecordPart Index) :=
  [("name", .required .text "" Index.name),
   ("columns", .required textList [] Index.columns),
   ("unique", .defaulted .flag false Index.unique),
   ("primary", .defaulted .flag false Index.primary),
   ("algorithm", .nullable .text Index.algorithm?)]

/-- The format of indexes is made of these fields. -/
theorem Index.isRecord : Index.format.IsRecord Index.parts where
  shape_eq := rfl
  nodup := by decide
  encode_eq _ := rfl
  get_decode j := by
    simp only [Index.parts, List.forall_mem_cons]
    exact ⟨rfl, rfl, rfl, rfl, rfl, List.forall_mem_nil _⟩
  ext x y h := by
    simp only [Index.parts, List.forall_mem_cons] at h
    obtain ⟨hname, hcolumns, hunique, hprimary, halgorithm, -⟩ := h
    exact (Index.mk.injEq ..).mpr ⟨hname, hcolumns, hunique, hprimary, halgorithm⟩

/-- An index is read back. -/
theorem Index.faithful : Index.format.Faithful := by
  refine Index.isRecord.faithful ?_
  simp only [Index.parts, List.forall_mem_cons]
  exact ⟨.text, .list .text, .flag, .flag, .text, List.forall_mem_nil _⟩

/-- The fields of a foreign key. -/
def ForeignKey.parts : List (String × RecordPart ForeignKey) :=
  [("symbol", .required .text "" ForeignKey.symbol),
   ("columns", .required textList [] ForeignKey.columns),
   ("ref_table", .required .text "" ForeignKey.refTable),
   ("ref_columns", .required textList [] ForeignKey.refColumns),
   ("on_update", .defaulted ReferenceAction.format .restrict ForeignKey.onUpdate),
   ("on_delete", .defaulted ReferenceAction.format .restrict ForeignKey.onDelete)]

/-- The format of foreign keys is made of these fields. -/
theorem ForeignKey.isRecord : ForeignKey.format.IsRecord ForeignKey.parts where
  shape_eq := rfl
  nodup := by decide
  encode_eq _ := rfl
  get_decode j := by
    simp only [ForeignKey.parts, List.forall_mem_cons]
    exact ⟨rfl, rfl, rfl, rfl, rfl, rfl, List.forall_mem_nil _⟩
  ext x y h := by
    simp only [ForeignKey.parts, List.forall_mem_cons] at h
    obtain ⟨hsymbol, hcolumns, hrefTable, hrefColumns, honUpdate, honDelete, -⟩ := h
    exact (ForeignKey.mk.injEq ..).mpr ⟨hsymbol, hcolumns, hrefTable, hrefColumns, honUpdate,
      honDelete⟩

/-- A foreign key is read back, its two actions included. -/
theorem ForeignKey.faithful : ForeignKey.format.Faithful := by
  refine ForeignKey.isRecord.faithful ?_
  simp only [ForeignKey.parts, List.forall_mem_cons]
  exact ⟨.text, .list .text, .text, .list .text, ReferenceAction.faithful,
    ReferenceAction.faithful, List.forall_mem_nil _⟩

/-- The fields of a table. -/
def Table.parts : List (String × RecordPart Table) :=
  [("name", .required .text "" Table.name),
   ("comment", .defaulted .text "" Table.comment),
   ("engine", .nullable .text Table.engine?),
   ("charset", .nullable .text Table.charset?),
   ("collation", .nullable .text Table.collation?),
   ("columns", .defaulted (.list Column.format) [] Table.columns),
   ("indexes", .defaulted (.list Index.format) [] Table.indexes),
   ("foreign_keys", .defaulted (.list ForeignKey.format) [] Table.foreignKeys)]

/-- The format of tables is made of these fields. -/
theorem Table.isRecord : Table.format.IsRecord Table.parts where
  shape_eq := rfl
  nodup := by decide
  encode_eq _ := rfl
  get_decode j := by
    simp only [Table.parts, List.forall_mem_cons]
    exact ⟨rfl, rfl, rfl, rfl, rfl, rfl, rfl, rfl, List.forall_mem_nil _⟩
  ext x y h := by
    simp only [Table.parts, List.forall_mem_cons] at h
    obtain ⟨hname, hcomment, hengine, hcharset, hcollation, hcolumns, hindexes, hforeignKeys,
      -⟩ := h
    exact (Table.mk.injEq ..).mpr ⟨hname, hcomment, hengine, hcharset, hcollation, hcolumns,
      hindexes, hforeignKeys⟩

/-- A table is read back, with its columns and keys. -/
theorem Table.faithful : Table.format.Faithful := by
  refine Table.isRecord.faithful ?_
  simp only [Table.parts, List.forall_mem_cons]
  exact ⟨.text, .text, .text, .text, .text, .list Column.faithful, .list Index.faithful,
    .list ForeignKey.faithful, List.forall_mem_nil _⟩

/-- The fields of a database. -/
def Database.parts : List (String × RecordPart Database) :=
  [("name", .defaulted .text "" Database.name),
   ("tables", .defaulted (.list Table.format) [] Database.tables)]

/-- The format of databases is made of these fields. -/
theorem Database.isRecord : Database.format.IsRecord Database.parts where
  shape_eq := rfl
  nodup := by decide
  encode_eq _ := rfl
  get_decode j := by
    simp only [Database.parts, List.forall_mem_cons]
    exact ⟨rfl, rfl, List.forall_mem_nil _⟩
  ext x y h := by
    simp only [Database.parts, List.forall_mem_cons] at h
    obtain ⟨hname, htables, -⟩ := h
    exact (Database.mk.injEq ..).mpr ⟨hname, htables⟩

/-- A database is read back, with its tables. -/
theorem Database.faithful : Database.format.Faithful := by
  refine Database.isRecord.faithful ?_
  simp only [Database.parts, List.forall_mem_cons]
  exact ⟨.text, .list Table.faithful, List.forall_mem_nil _⟩

/-! ## Configurations -/

/-- The fields of a replacement type. -/
def GoTypeOverride.parts : List (String × RecordPart GoTypeOverride) :=
  [("ident", .required .text "" GoTypeOverride.ident),
   ("pkgPath", .defaulted .text "" GoTypeOverride.pkgPath)]

/-- The format of replacement types is made of these fields. -/
theorem GoTypeOverride.isRecord : GoTypeOverride.format.IsRecord GoTypeOverride.parts where
  shape_eq := rfl
  nodup := by decide
  encode_eq _ := rfl
  get_decode j := by
    simp only [GoTypeOverride.parts, List.forall_mem_cons]
    exact ⟨rfl, rfl, List.forall_mem_nil _⟩
  ext x y h := by
    simp only [GoTypeOverride.parts, List.forall_mem_cons] at h
    obtain ⟨hident, hpkgPath, -⟩ := h
    exact (GoTypeOverride.mk.injEq ..).mpr ⟨hident, hpkgPath⟩

/-- A replacement type is read back. -/
theorem GoTypeOverride.faithful : GoTypeOverride.format.Faithful := by
  refine GoTypeOverride.isRecord.faithful ?_
  simp only [GoTypeOverride.parts, List.forall_mem_cons]
  exact ⟨.text, .text, List.forall_mem_nil _⟩

/-- The fields of an options block. Without tags of its own it asks for the `json` tag. -/
def Options.parts : List (String × RecordPart Options) :=
  [("enableInt", .defaulted .flag false Options.enableInt),
   ("enableIntegerInt", .defaulted .flag false Options.enableIntegerInt),
   ("enableBoolInt", .defaulted .flag false Options.enableBoolInt),
   ("disableNullToPoint", .defaulted .flag false Options.disableNullToPoint),
   ("enableForeignKey", .defaulted .flag false Options.enableForeignKey),
   ("ignoreOmitempty", .defaulted .flag false Options.ignoreOmitempty),
   ("disableCommentTag", .defaulted .flag false Options.disableCommentTag),
   ("tags", .defaulted (.dict .text) Options.standard.tags Options.tags),
   ("escapeName", .defaulted (.list .text) [] Options.escapeName),
   ("typeOverrides", .defaulted (.dict GoTypeOverride.format) .empty Options.typeOverrides)]

/-- The format of options is made of these fields. -/
theorem Options.isRecord : Options.format.IsRecord Options.parts where
  shape_eq := rfl
  nodup := by decide
  encode_eq _ := rfl
  get_decode j := by
    simp only [Options.parts, List.forall_mem_cons]
    exact ⟨rfl, rfl, rfl, rfl, rfl, rfl, rfl, rfl, rfl, rfl, List.forall_mem_nil _⟩
  ext x y h := by
    simp only [Options.parts, List.forall_mem_cons] at h
    obtain ⟨henableInt, henableIntegerInt, henableBoolInt, hdisableNullToPoint, henableForeignKey,
      hignoreOmitempty, hdisableCommentTag, htags, hescapeName, htypeOverrides, -⟩ := h
    exact (Options.mk.injEq ..).mpr ⟨henableInt, henableIntegerInt, henableBoolInt,
      hdisableNullToPoint, henableForeignKey, hignoreOmitempty, hdisableCommentTag, htags,
      hescapeName, htypeOverrides⟩

/-- Options are read back, with their tags and replacement types. -/
theorem Options.faithful : Options.format.Faithful := by
  refine Options.isRecord.faithful ?_
  simp only [Options.parts, List.forall_mem_cons]
  exact ⟨.flag, .flag, .flag, .flag, .flag, .flag, .flag, .dict .text, .list .text,
    .dict GoTypeOverride.faithful, List.forall_mem_nil _⟩

/-- The fields of the model section. -/
def ModelConfig.parts : List (String × RecordPart ModelConfig) :=
  [("out", .nullable .text ModelConfig.out),
   ("package", .nullable .text ModelConfig.package),
   ("merge", .defaulted .flag false ModelConfig.merge),
   ("filename", .nullable .text ModelConfig.filename)]

/-- The format of the section for models is made of these fields. -/
theorem ModelConfig.isRecord : ModelConfig.format.IsRecord ModelConfig.parts where
  shape_eq := rfl
  nodup := by decide
  encode_eq _ := rfl
  get_decode j := by
    simp only [ModelConfig.parts, List.forall_mem_cons]
    exact ⟨rfl, rfl, rfl, rfl, List.forall_mem_nil _⟩
  ext x y h := by
    simp only [ModelConfig.parts, List.forall_mem_cons] at h
    obtain ⟨hout, hpackage, hmerge, hfilename, -⟩ := h
    exact (ModelConfig.mk.injEq ..).mpr ⟨hout, hpackage, hmerge, hfilename⟩

/-- The section for models is read back. -/
theorem ModelConfig.faithful : ModelConfig.format.Faithful := by
  refine ModelConfig.isRecord.faithful ?_
  simp only [ModelConfig.parts, List.forall_mem_cons]
  exact ⟨.text, .text, .flag, .text, List.forall_mem_nil _⟩

/-- The fields of the protobuf section. -/
def ProtoConfig.parts : List (String × RecordPart ProtoConfig) :=
  [("out", .nullable .text ProtoConfig.out),
   ("package", .nullable .text ProtoConfig.package),
   ("options", .defaulted (.dict .text) .empty ProtoConfig.options),
   ("style", .nullable .text ProtoConfig.style),
   ("disableBool", .defaulted .flag false ProtoConfig.disableBool),
   ("disableTimestamp", .defaulted .flag false ProtoConfig.disableTimestamp)]

/-- The format of the section for messages is made of these fields. -/
theorem ProtoConfig.isRecord : ProtoConfig.format.IsRecord ProtoConfig.parts where
  shape_eq := rfl
  nodup := by decide
  encode_eq _ := rfl
  get_decode j := by
    simp only [ProtoConfig.parts, List.forall_mem_cons]
    exact ⟨rfl, rfl, rfl, rfl, rfl, rfl, List.forall_mem_nil _⟩
  ext x y h := by
    simp only [ProtoConfig.parts, List.forall_mem_cons] at h
    obtain ⟨hout, hpackage, hoptions, hstyle, hdisableBool, hdisableTimestamp, -⟩ := h
    exact (ProtoConfig.mk.injEq ..).mpr ⟨hout, hpackage, hoptions, hstyle, hdisableBool,
      hdisableTimestamp⟩

/-- The section for messages is read back. -/
theorem ProtoConfig.faithful : ProtoConfig.format.Faithful := by
  refine ProtoConfig.isRecord.faithful ?_
  simp only [ProtoConfig.parts, List.forall_mem_cons]
  exact ⟨.text, .text, .dict .text, .text, .flag, .flag, List.forall_mem_nil _⟩

/-- The fields of the table definition section. -/
def SqlConfig.parts : List (String × RecordPart SqlConfig) :=
  [("out", .nullable .text SqlConfig.out),
   ("merge", .defaulted .flag false SqlConfig.merge),
   ("filename", .nullable .text SqlConfig.filename)]

/-- The format of the section for table scripts is made of these fields. -/
theorem SqlConfig.isRecord : SqlConfig.format.IsRecord SqlConfig.parts where
  shape_eq := rfl
  nodup := by decide
  encode_eq _ := rfl
  get_decode j := by
    simp only [SqlConfig.parts, List.forall_mem_cons]
    exact ⟨rfl, rfl, rfl, List.forall_mem_nil _⟩
  ext x y h := by
    simp only [SqlConfig.parts, List.forall_mem_cons] at h
    obtain ⟨hout, hmerge, hfilename, -⟩ := h
    exact (SqlConfig.mk.injEq ..).mpr ⟨hout, hmerge, hfilename⟩

/-- The section for table scripts is read back. -/
theorem SqlConfig.faithful : SqlConfig.format.Faithful := by
  refine SqlConfig.isRecord.faithful ?_
  simp only [SqlConfig.parts, List.forall_mem_cons]
  exact ⟨.text, .flag, .text, List.forall_mem_nil _⟩

/-- The fields of the query-layer section. -/
def RapierConfig.parts : List (String × RecordPart RapierConfig) :=
  [("out", .nullable .text RapierConfig.out),
   ("package", .nullable .text RapierConfig.package),
   ("modelImportPath", .nullable .text RapierConfig.modelImportPath)]

/-- The format of the section for accessors is made of these fields. -/
theorem RapierConfig.isRecord : RapierConfig.format.IsRecord RapierConfig.parts where
  shape_eq := rfl
  nodup := by decide
  encode_eq _ := rfl
  get_decode j := by
    simp only [RapierConfig.parts, List.forall_mem_cons]
    exact ⟨rfl, rfl, rfl, List.forall_mem_nil _⟩
  ext x y h := by
    simp only [RapierConfig.parts, List.forall_mem_cons] at h
    obtain ⟨hout, hpackage, hmodelImportPath, -⟩ := h
    exact (RapierConfig.mk.injEq ..).mpr ⟨hout, hpackage, hmodelImportPath⟩

/-- The section for accessors is read back. -/
theorem RapierConfig.faithful : RapierConfig.format.Faithful := by
  refine RapierConfig.isRecord.faithful ?_
  simp only [RapierConfig.parts, List.forall_mem_cons]
  exact ⟨.text, .text, .text, List.forall_mem_nil _⟩

/-- The fields of a configuration. -/
def Config.parts : List (String × RecordPart Config) :=
  [("options", .defaulted Options.format Config.standard.options Config.options),
   ("model", .defaulted ModelConfig.format Config.standard.model Config.model),
   ("proto", .defaulted ProtoConfig.format Config.standard.proto Config.proto),
   ("sql", .defaulted SqlConfig.format Config.standard.sql Config.sql),
   ("rapier", .defaulted RapierConfig.format Config.standard.rapier Config.rapier)]

/-- The format of configurations is made of these fields. -/
theorem Config.isRecord : Config.format.IsRecord Config.parts where
  shape_eq := rfl
  nodup := by decide
  encode_eq _ := rfl
  get_decode j := by
    simp only [Config.parts, List.forall_mem_cons]
    exact ⟨rfl, rfl, rfl, rfl, rfl, List.forall_mem_nil _⟩
  ext x y h := by
    simp only [Config.parts, List.forall_mem_cons] at h
    obtain ⟨hoptions, hmodel, hproto, hsql, hrapier, -⟩ := h
    exact (Config.mk.injEq ..).mpr ⟨hoptions, hmodel, hproto, hsql, hrapier⟩

/-- A configuration is read back, with its options and its sections. -/
theorem Config.faithful : Config.format.Faithful := by
  refine Config.isRecord.faithful ?_
  simp only [Config.parts, List.forall_mem_cons]
  exact ⟨Options.faithful, ModelConfig.faithful, ProtoConfig.faithful, SqlConfig.faithful,
    RapierConfig.faithful, List.forall_mem_nil _⟩

/-! ## All of them -/

/-- The records that documents are made of, with their fields. -/
inductive Documented : {α : Type} → Format α → List (String × RecordPart α) → Prop
  | column : Documented Column.format Column.parts
  | index : Documented Index.format Index.parts
  | foreignKey : Documented ForeignKey.format ForeignKey.parts
  | table : Documented Table.format Table.parts
  | database : Documented Database.format Database.parts
  | goTypeOverride : Documented GoTypeOverride.format GoTypeOverride.parts
  | options : Documented Options.format Options.parts
  | modelConfig : Documented ModelConfig.format ModelConfig.parts
  | protoConfig : Documented ProtoConfig.format ProtoConfig.parts
  | sqlConfig : Documented SqlConfig.format SqlConfig.parts
  | rapierConfig : Documented RapierConfig.format RapierConfig.parts
  | config : Documented Config.format Config.parts

/-- **The formats of these records are made of these fields.** -/
theorem Documented.isRecord {α : Type} {F : Format α} {parts : List (String × RecordPart α)}
    (h : Documented F parts) : F.IsRecord parts := by
  cases h with
  | column => exact Column.isRecord
  | index => exact Index.isRecord
  | foreignKey => exact ForeignKey.isRecord
  | table => exact Table.isRecord
  | database => exact Database.isRecord
  | goTypeOverride => exact GoTypeOverride.isRecord
  | options => exact Options.isRecord
  | modelConfig => exact ModelConfig.isRecord
  | protoConfig => exact ProtoConfig.isRecord
  | sqlConfig => exact SqlConfig.isRecord
  | rapierConfig => exact RapierConfig.isRecord
  | config => exact Config.isRecord

/-- **What is written is read back**, be it a database or a configuration. -/
theorem ofText_write :
    (∀ d : Database, Database.ofText (Database.format.write d) = .ok d) ∧
      ∀ c : Config, Config.ofText (Config.format.write c) = .ok c :=
  ⟨Format.read_write Database.faithful, Format.read_write Config.faithful⟩

end Tablewright

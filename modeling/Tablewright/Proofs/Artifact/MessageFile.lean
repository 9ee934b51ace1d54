import Tablewright.Proofs.Artifact.Acceptance
import Tablewright.Proofs.Artifact.MessageSource

/-! # Files of messages

A file of messages is protobuf source (`ProtoFile.emit_eq_text`), with one message for each entity and one
field for each of its fields. When it is accepted, its names are identifiers, so all that could be ill
formed are the types that comments ask for.

* `ProtoFile.wellFormed_message`: if these are paths, the message is well formed, whatever else the comments
  say.
* `ProtoFile.mem_imports_timestamp`, `ProtoFile.mem_imports_annotations`: what is imported is what the fields
  show.
* `ProtoFile.emit_wellFormed`: the same of whole files. -/

namespace Tablewright.Artifact.ProtoFile

open Proto (IsPath importLine importLines paragraph scalars)
open Text (OneLine oneLine_append oneLine_singleLine ended)

variable (p : ProtoFile)

/-! ## The source of a file -/

/-- The line of a field in a message. -/
def row (f : Field) (number : Nat) : Proto.Row :=
  let m := p.messageField f
  { note := if m.comment = "" then none else some m.comment
    optional := f.nullable
    type := m.typeName
    name := m.name
    number := number
    hint := if m.annotations = [] then none else some (String.intercalate ", " m.annotations) }

/-- The message of an entity. -/
def message (e : Entity) : Proto.Message :=
  let doc := Text.onChars Text.singleLine e.comment
  { doc := if doc = "" then messageName e else messageName e ++ " " ++ doc
    name := messageName e
    rows := e.fields.zipIdx.map fun f => p.row f.1 (f.2 + 1) }

/-- The file of some entities. -/
def file (es : List Entity) : Proto.File where
  banner :=
    if p.header.disabled then []
    else ["Code generated by " ++ p.header.byName ++ ". DO NOT EDIT.", "version: " ++ p.header.version]
  package := if p.package = "" then none else some p.package
  imports := p.imports es
  options := p.options.entries
  messages := es.map p.message

/-- The text of a message field is its row's lines, each ended. -/
theorem fieldLines_eq_ended (f : Field) (number : Nat) :
    fieldLines (p.messageField f) number = ended (p.row f number).lines := by
  have hlabel : (p.messageField f).cardinality.label = if f.nullable then "optional " else "" := by
    show Cardinality.label (if f.nullable then _ else _) = _
    cases f.nullable <;> rfl
  rw [fieldLines, hlabel, Proto.Row.lines, Proto.Row.text, row, Text.ended_append, ← String.toList_inj]
  by_cases hnote : (p.messageField f).comment = "" <;>
    by_cases hhints : (p.messageField f).annotations = [] <;>
    simp [hnote, hhints, Text.ended_cons]

/-- The text an entity gets is its message's text. -/
theorem body_eq_text (e : Entity) : p.body e = (p.message e).text := by
  have hdoc : docLine (messageName e) e.comment = "// " ++ (p.message e).doc ++ "\n" := by
    rw [docLine, message, ← String.toList_inj]
    by_cases h : Text.onChars Text.singleLine e.comment = "" <;> simp [h]
  have hrows : (p.messageFields e).zipIdx.map (fun m => fieldLines m.1 (m.2 + 1)) =
      (p.message e).rows.map fun r => ended r.lines := by
    simp only [messageFields, message, List.zipIdx_map, List.map_map, Function.comp_def,
      ← fieldLines_eq_ended]
    rfl
  rw [body, hdoc, hrows, Proto.Message.text, Proto.Message.lines, Text.ended_append, Text.ended_cons,
    Text.ended_cons, Text.ended_flatMap, ← String.toList_inj]
  simp [Text.ended_cons, message]

/-- A block of lines is the paragraph of those lines. -/
theorem block_eq_ended (ls : List String) : block ls = ended (paragraph ls) := by
  rw [block, paragraph]
  split
  · rfl
  · rw [Text.ended_append]
    rfl

/-- The header is a paragraph of comment lines, empty when it is disabled. -/
theorem render_eq_ended (h : Header) :
    h.render "//" = ended (paragraph ((if h.disabled then []
      else ["Code generated by " ++ h.byName ++ ". DO NOT EDIT.", "version: " ++ h.version]).map
        fun line => "// " ++ line)) := by
  rw [Header.render, ← String.toList_inj]
  split
  · rfl
  · simp [paragraph, Text.ended_cons]

/-- An entity is written unless it is refused. -/
theorem entity_eq_ok_iff {e : Entity} {m : String} :
    p.entity e = .ok m ↔ p.refusal? e = none ∧ p.body e = m := by
  delta entity
  cases p.refusal? e <;> simp

/-- What stands before the messages is the file's preamble: the header, the syntax, the package, the
imports and the options. -/
theorem preamble_eq_ended (es : List Entity) :
    p.header.render "//" ++ "syntax = \"proto3\";\n\n" ++
      (if p.package = "" then "" else "package " ++ p.package ++ ";\n\n") ++
      block ((p.imports es).map fun path => "import \"" ++ path ++ "\";") ++
      block (p.options.entries.map fun o => "option " ++ o.1 ++ " = \"" ++ o.2 ++ "\";") =
    ended (p.file es).preamble := by
  have hproto : "syntax = \"proto3\";\n\n" = ended ["syntax = \"proto3\";", ""] := by
    rw [← String.toList_inj]
    simp [Text.ended_cons]
  have hpackage : (if p.package = "" then "" else "package " ++ p.package ++ ";\n\n") =
      ended (paragraph ((p.file es).package.toList.map fun name => "package " ++ name ++ ";")) := by
    rw [file, ← String.toList_inj]
    by_cases hname : p.package = "" <;> simp [hname, paragraph, Text.ended_cons]
  simp only [hproto, hpackage, block_eq_ended, render_eq_ended, Proto.File.preamble, Text.ended_append]
  rfl

/-- **What is written is the source of the file.** -/
theorem emit_eq_text {es : List Entity} {text : String} (h : p.emit es = .ok text) :
    text = (p.file es).text := by
  obtain ⟨messages, hmessages, htext⟩ := bind_eq_ok_iff.mp h
  have hbody : ∀ e m, p.entity e = .ok m → id m = (p.message e).text := fun e m hm =>
    (p.entity_eq_ok_iff.mp hm).2.symm.trans (p.body_eq_text e)
  have hall := map_eq_of_mapM_eq_ok hbody hmessages
  have hfile : (p.file es).messages.map Proto.Message.text = es.map fun e => (p.message e).text := by
    simp only [file, List.map_map, Function.comp_def]
  rw [List.map_id, ← hfile] at hall
  rw [← Except.ok.inj htext, preamble_eq_ended, hall, Proto.File.text_eq]

/-! ## Messages that are well formed -/

/-- The type of a kind is a scalar or the message of a point in time. -/
theorem protoName_mem_scalars (k : ColumnKind) :
    k.protoName ∈ scalars ∨ k.protoName = timestampMessage := by
  cases k <;> simp [scalars, ProtoKind.name, ColumnKind.protoName, ColumnKind.toProto]

/-- A column kind becomes a scalar or the timestamp message, with the integer hint or with none. -/
theorem typeOf_cases (k : ColumnKind) :
    ((p.typeOf k).2.1 ∈ scalars ∨ (p.typeOf k).2.1 = timestampMessage) ∧
      ((p.typeOf k).2.2 = [] ∨ (p.typeOf k).2.2 = [integerHint]) := by
  rw [typeOf.eq_def]
  split
  · split
    · exact ⟨.inl (by simp [scalars]), .inl rfl⟩
    · exact ⟨protoName_mem_scalars .bool, .inl rfl⟩
  · split
    · exact ⟨.inl (by simp [scalars]), .inr rfl⟩
    · exact ⟨protoName_mem_scalars .time, .inl rfl⟩
  · exact ⟨protoName_mem_scalars .int64, .inr rfl⟩
  · exact ⟨protoName_mem_scalars .uint64, .inr rfl⟩
  · exact ⟨protoName_mem_scalars k, .inl rfl⟩

/-- The timestamp message is a dotted path of identifiers. -/
theorem isPath_timestampMessage : IsPath timestampMessage := by
  simp [IsPath, timestampMessage, Text.pieces, Naming.isProtoIdentifier, Naming.startsThen]

/-- A field has the type of its kind, unless its comment asks for another one, which has no annotations. -/
theorem messageField_type (f : Field) :
    ((p.messageField f).typeName, (p.messageField f).annotations) =
      match Comment.pbType? f.comment with
      | some custom => (custom, [])
      | none => (p.typeOf f.kind).2 := by
  rw [messageField]
  cases Comment.pbType? f.comment <;> rfl

variable {p} {e : Entity} {es : List Entity}

/-- Entities are accepted if none of them is refused. -/
theorem exists_emit_iff : (∃ text, p.emit es = .ok text) ↔ ∀ e ∈ es, p.refusal? e = none := by
  refine ((Backend.proto p).exists_emit_eq_ok_iff es).trans (forall₂_congr fun e _ => ?_)
  show (∃ t, p.entity e = .ok t) ↔ _
  simp only [entity_eq_ok_iff, exists_and_left, exists_eq', and_true]

/-- An entity is accepted if the names of its message and of its fields are identifiers. -/
theorem refusal?_eq_none_iff :
    p.refusal? e = none ↔ Naming.isProtoIdentifier (messageName e) = true ∧
      ∀ f ∈ e.fields, Naming.isProtoIdentifier (p.messageField f).name = true := by
  rw [refusal?]
  cases Naming.isProtoIdentifier (messageName e) <;> simp [messageFields]

/-- The integer hint has no line break. -/
theorem oneLine_integerHint : OneLine integerHint := by
  rw [OneLine, integerHint, String.toList_ofList]
  simp

/-- A field of a valid name and with a valid type override gives a well-formed row. -/
theorem wellFormed_row {f : Field} (number : Nat)
    (hname : Naming.isProtoIdentifier (p.messageField f).name = true)
    (hpath : ∀ path ∈ Comment.pbType? f.comment, IsPath path) : (p.row f number).WellFormed := by
  obtain ⟨hkind, hhint⟩ := p.typeOf_cases f.kind
  have htype := p.messageField_type f
  -- a type asked for in the comment takes the place of both the type and the hint
  have hboth : ((p.messageField f).typeName ∈ scalars ∨ IsPath (p.messageField f).typeName) ∧
      ((p.messageField f).annotations = [] ∨ (p.messageField f).annotations = [integerHint]) := by
    cases hcustom : Comment.pbType? f.comment with
    | some custom =>
        rw [hcustom] at htype
        obtain ⟨hcustomType, hnone⟩ := Prod.mk.inj htype
        rw [hcustomType, hnone]
        exact ⟨.inr (hpath custom hcustom), .inl rfl⟩
    | none =>
        rw [hcustom] at htype
        obtain ⟨hkindType, hkindHint⟩ := Prod.mk.inj htype
        rw [hkindType, hkindHint]
        refine ⟨hkind.imp_right fun htime => ?_, hhint⟩
        rw [htime]
        exact isPath_timestampMessage
  refine ⟨fun note hnote => ?_, hboth.1, hname, fun hint hmem => ?_⟩
  · -- a note is put on a single line first
    simp only [row, Option.mem_def, Option.ite_none_left_eq_some] at hnote
    rw [← Option.some.inj hnote.2]
    exact oneLine_singleLine _
  · simp only [row, Option.mem_def, Option.ite_none_left_eq_some] at hmem
    obtain ⟨hne, hjoined⟩ := hmem
    rw [← Option.some.inj hjoined, hboth.2.resolve_left hne, String.intercalate_singleton]
    exact oneLine_integerHint

/-- **The message of an accepted entity is well formed if its comments ask for paths only**, whatever else
they say. -/
theorem wellFormed_message (h : p.refusal? e = none)
    (hpaths : ∀ f ∈ e.fields, ∀ path ∈ Comment.pbType? f.comment, IsPath path) :
    (p.message e).WellFormed := by
  obtain ⟨hname, hfields⟩ := refusal?_eq_none_iff.mp h
  refine ⟨?_, hname, fun r hr => ?_, ?_⟩
  · have hplain := Proto.oneLine_of_isProtoIdentifier hname
    simp only [message]
    split
    · exact hplain
    · exact oneLine_append.mpr
        ⟨oneLine_append.mpr ⟨hplain, by simp [OneLine]⟩, oneLine_singleLine e.comment⟩
  · obtain ⟨f, hf, rfl⟩ := List.mem_map.mp hr
    have hmem : f.1 ∈ e.fields := List.fst_mem_of_mem_zipIdx hf
    exact wellFormed_row _ (hfields f.1 hmem) (hpaths f.1 hmem)
  · -- numbers are positions counted from one
    have hnumbers : (p.message e).rows.map Proto.Row.number =
        (e.fields.zipIdx.map Prod.snd).map (1 + ·) := by
      simp only [message, row, List.map_map, Function.comp_def, Nat.add_comm]
    have hlength : (p.message e).rows.length = e.fields.length := by
      simp only [message, List.length_map, List.length_zipIdx]
    rw [hnumbers, hlength, List.zipIdx_map_snd, List.map_add_range']

/-! ## Imports -/

/-- What some field of a message shows, some field of the entity does. -/
theorem exists_row_iff {P : Proto.Row → Prop} {Q : Field → Prop}
    (h : ∀ f number, P (p.row f number) ↔ Q f) :
    (∃ r ∈ (p.message e).rows, P r) ↔ ∃ f ∈ e.fields, Q f := by
  constructor
  · rintro ⟨r, hr, hP⟩
    obtain ⟨f, hf, rfl⟩ := List.mem_map.mp hr
    exact ⟨f.1, List.fst_mem_of_mem_zipIdx hf, (h _ _).mp hP⟩
  · rintro ⟨f, hf, hQ⟩
    obtain ⟨i, hi⟩ := List.mem_iff_getElem?.mp hf
    have hmem : (f, i) ∈ e.fields.zipIdx := List.mk_mem_zipIdx_iff_getElem?.mpr hi
    exact ⟨_, List.mem_map_of_mem hmem, (h _ _).mpr hQ⟩

/-- The timestamp file is imported exactly when a row has the timestamp type. -/
theorem mem_imports_timestamp :
    "google/protobuf/timestamp.proto" ∈ p.imports es ↔
      ∃ e ∈ es, ∃ r ∈ (p.message e).rows, r.type = timestampMessage := by
  have hrow : ∀ f number, (p.row f number).type = timestampMessage ↔
      (p.messageField f).typeName = timestampMessage := fun f number => Iff.rfl
  simp only [exists_row_iff (P := fun r => r.type = timestampMessage) hrow]
  simp [imports, messageFields]

/-- The annotations file is imported exactly when a row has a hint. -/
theorem mem_imports_annotations :
    "protoc-gen-openapiv2/options/annotations.proto" ∈ p.imports es ↔
      ∃ e ∈ es, ∃ r ∈ (p.message e).rows, r.hint ≠ none := by
  have hrow : ∀ f number, (p.row f number).hint ≠ none ↔
      (p.messageField f).annotations ≠ [] := by
    intro f number
    simp only [row]
    split <;> simp [*]
  simp only [exists_row_iff (P := fun r => r.hint ≠ none) hrow]
  simp [imports, messageFields]

/-- Nothing but these two files is imported, each at most once and in this order. -/
theorem imports_sublist : (p.imports es).Sublist
    ["google/protobuf/timestamp.proto", "protoc-gen-openapiv2/options/annotations.proto"] := by
  rw [imports]
  split <;> split <;> simp

/-! ## Files -/

/-- The texts that a file has besides its messages and imports. -/
def texts (p : ProtoFile) : List String :=
  [p.header.byName, p.header.version, p.package] ++ p.options.entries.flatMap fun o => [o.1, o.2]

/-- Texts of one line and well-formed messages give a well-formed file. -/
theorem wellFormed_file (htexts : ∀ s ∈ p.texts, OneLine s)
    (hmessages : ∀ e ∈ es, (p.message e).WellFormed) : (p.file es).WellFormed := by
  simp only [texts, List.forall_mem_append, List.forall_mem_cons, List.mem_flatMap] at htexts
  obtain ⟨⟨hname, hversion, hpackage, -⟩, hoptions⟩ := htexts
  refine ⟨?_, ?_, ?_, ?_, ?_⟩
  · simp only [file]
    split
    · simp
    · simp only [List.forall_mem_cons, oneLine_append, hname, hversion, and_true]
      simp [OneLine]
  · intro name h
    simp only [file, Option.mem_def, Option.ite_none_left_eq_some] at h
    rw [← Option.some.inj h.2]
    exact hpackage
  · intro path hpath
    have hmem := imports_sublist.mem hpath
    simp only [List.mem_cons, List.not_mem_nil, or_false] at hmem
    rcases hmem with rfl | rfl <;> simp [OneLine]
  · exact fun o ho => ⟨hoptions o.1 ⟨o, ho, by simp⟩, hoptions o.2 ⟨o, ho, by simp⟩⟩
  · intro m hm
    obtain ⟨e, he, rfl⟩ := List.mem_map.mp hm
    exact hmessages e he

/-- The fields of a message are those of the entity, in order. -/
theorem rows_message (e : Entity) :
    (p.message e).rows.map (fun r => (r.optional, r.type, r.name)) =
      e.fields.map fun f => (f.nullable, (p.messageField f).typeName, (p.messageField f).name) := by
  have hfst : (p.message e).rows.map (fun r => (r.optional, r.type, r.name)) =
      (e.fields.zipIdx.map Prod.fst).map fun f =>
        (f.nullable, (p.messageField f).typeName, (p.messageField f).name) := by
    simp only [message, row, List.map_map, Function.comp_def]
  rw [hfst, List.zipIdx_map_fst]

/-- **A file of messages is well formed if its comments ask for paths only.** It is written line by line:
each message is a comment line, the line with its name, for each field at most one comment line and one line
with its label, type, name, number and annotation, and a closing brace. The file imports the definition of
points in time if some field is one, and that of annotations if some field has one, and no comment can add
another import to its text. -/
theorem emit_wellFormed {text : String}
    (hpaths : ∀ e ∈ es, ∀ f ∈ e.fields, ∀ path ∈ Comment.pbType? f.comment, IsPath path)
    (h : p.emit es = .ok text) :
    text = (p.file es).text ∧
    (∀ e ∈ es, (p.message e).WellFormed ∧
      Text.lines (p.message e).text.toList = (p.message e).lines.map String.toList ++ [[]] ∧
      (p.message e).rows.map (fun r => (r.optional, r.type, r.name)) =
        e.fields.map fun f => (f.nullable, (p.messageField f).typeName, (p.messageField f).name)) ∧
    (p.imports es).Sublist
      ["google/protobuf/timestamp.proto", "protoc-gen-openapiv2/options/annotations.proto"] ∧
    ("google/protobuf/timestamp.proto" ∈ p.imports es ↔
      ∃ e ∈ es, ∃ r ∈ (p.message e).rows, r.type = timestampMessage) ∧
    ("protoc-gen-openapiv2/options/annotations.proto" ∈ p.imports es ↔
      ∃ e ∈ es, ∃ r ∈ (p.message e).rows, r.hint ≠ none) ∧
    ((∀ s ∈ p.texts, OneLine s) → importLines text = (p.imports es).map importLine) := by
  have hmessages : ∀ e ∈ es, (p.message e).WellFormed := fun e he =>
    wellFormed_message (exists_emit_iff.mp ⟨text, h⟩ e he) (hpaths e he)
  refine ⟨p.emit_eq_text h, fun e he => ⟨hmessages e he, (hmessages e he).lines_text, rows_message e⟩,
    imports_sublist, mem_imports_timestamp, mem_imports_annotations, fun htexts => ?_⟩
  rw [p.emit_eq_text h]
  exact (wellFormed_file htexts hmessages).importLines_text

/-- Fields with a comment of two lines, the second of which looks like an import, with a time that may be
left out, and with a comment that asks for another type. -/
theorem emit_wellFormed_order :
    let e : Entity :=
      { (default : Entity) with
        name := "order"
        fields := [.bare "id" "key\nimport \"a\";" .int64 false, .bare "sentAt" "" .time true,
          .bare "extra" "[@pbtype: pb.Any]" .json false] }
    let p : ProtoFile := { (default : ProtoFile) with style := some .snakeCase }
    (∀ f ∈ e.fields, ∀ path ∈ Comment.pbType? f.comment, IsPath path) ∧
      (p.message e).WellFormed ∧
      (p.message e).rows.map (fun r => (r.optional, r.type, r.name)) =
        [(false, "int64", "id"), (true, timestampMessage, "sent_at"), (false, "pb.Any", "extra")] ∧
      ∃ text, p.emit [e] = .ok text ∧ importLines text =
        ["google/protobuf/timestamp.proto", "protoc-gen-openapiv2/options/annotations.proto"].map
          importLine := by
  intro e p
  have hpath : ∀ f ∈ e.fields, ∀ path ∈ Comment.pbType? f.comment, IsPath path := by
    decide +kernel
  have haccepted : ∀ e' ∈ [e], p.refusal? e' = none := by decide +kernel
  obtain ⟨text, htext⟩ := exists_emit_iff.mpr haccepted
  have hone : ∀ s ∈ p.texts, OneLine s := by decide +kernel
  have himports : p.imports [e] =
      ["google/protobuf/timestamp.proto", "protoc-gen-openapiv2/options/annotations.proto"] := by
    decide +kernel
  obtain ⟨-, hmessage, -, -, -, hlines⟩ := emit_wellFormed (by simpa using hpath) htext
  obtain ⟨hwellFormed, -, hrows⟩ := hmessage e List.mem_cons_self
  refine ⟨hpath, hwellFormed, hrows.trans ?_, text, htext, (hlines hone).trans ?_⟩
  · decide +kernel
  · rw [himports]

end Tablewright.Artifact.ProtoFile

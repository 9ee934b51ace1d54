import Tablewright.Column.Kind
import Tablewright.Naming.Identifier
import Tablewright.Proofs.Text.Lines
import Tablewright.Proofs.Text.Quoted

/-! # Protobuf source

The part of protobuf source that generated files are written in: comment lines, a package, imports, options,
and messages with one line for each field and at most one comment line in front of it. `File.text` writes a
file, line by line. A line of a message stays one line if its types and names are well formed
(`Message.WellFormed`), so such a file can be read back.

* `Message.WellFormed.lines_text`: the lines of a message that is well formed.
* `File.WellFormed.importLines_text`: what a file imports, read off its text. -/

namespace Tablewright.Proto

open Naming (isProtoIdentifier)
open Text (OneLine oneLine_append)

/-! ## Types and names -/

/-- The names of the scalar types. -/
def scalars : List String :=
  [ProtoKind.bool, .int32, .int64, .uint32, .uint64, .float, .double, .string, .bytes].map ProtoKind.name

/-- Identifiers with dots between them. -/
def IsPath (s : String) : Prop :=
  ∀ part ∈ Text.pieces (· == '.') s.toList, isProtoIdentifier (String.ofList part) = true

instance (s : String) : Decidable (IsPath s) :=
  inferInstanceAs (Decidable (∀ _ ∈ _, _))

/-- An identifier has no line break. -/
theorem oneLine_of_isProtoIdentifier {s : String} (h : isProtoIdentifier s = true) : OneLine s := by
  rw [isProtoIdentifier] at h
  rw [OneLine]
  cases hs : s.toList with
  | nil => exact List.not_mem_nil
  | cons c cs =>
      rw [hs, Naming.startsThen, Bool.and_eq_true, List.all_eq_true] at h
      obtain ⟨hfirst, hrest⟩ := h
      rw [List.mem_cons, not_or]
      refine ⟨?_, fun hmem => Bool.noConfusion (hrest _ hmem)⟩
      rintro rfl
      contradiction

/-- A dotted path has no line break. -/
theorem IsPath.oneLine {s : String} (h : IsPath s) : OneLine s := by
  intro hmem
  obtain ⟨part, hpart, hin⟩ := Text.exists_mem_pieces (p := (· == '.')) (by rfl) hmem
  have hone := oneLine_of_isProtoIdentifier (h part hpart)
  rw [OneLine, String.toList_ofList] at hone
  exact hone hin

/-- The name of a scalar has no line break. -/
theorem oneLine_of_mem_scalars {s : String} (h : s ∈ scalars) : OneLine s := by
  simp only [scalars, ProtoKind.name, List.map_cons, List.map_nil, List.mem_cons, List.not_mem_nil,
    or_false] at h
  rcases h with rfl | rfl | rfl | rfl | rfl | rfl | rfl | rfl | rfl <;> simp [OneLine]

/-- A number is written without a line break. -/
theorem oneLine_toString (n : Nat) : OneLine (toString n) := by
  intro hmem
  rw [Nat.toString_eq_repr, Nat.toList_repr] at hmem
  have hdigit := Nat.isDigit_of_mem_toDigits (b := 10) (by decide) (by decide) hmem
  contradiction

/-! ## Messages -/

/-- A field of a message, with the comment in front of it. -/
structure Row where
  note : Option String
  optional : Bool
  type : String
  name : String
  number : Nat
  /-- An annotation for the API description. -/
  hint : Option String

/-- The line of a field. -/
def Row.text (r : Row) : String :=
  "  " ++ (if r.optional then "optional " else "") ++ r.type ++ " " ++ r.name ++ " = " ++
    toString r.number ++ (match r.hint with | some hint => " [" ++ hint ++ "]" | none => "") ++ ";"

/-- The line of a field, behind that of its comment. -/
def Row.lines (r : Row) : List String :=
  r.note.toList.map (fun note => "  // " ++ note) ++ [r.text]

/-- A message, with the comment in front of it. -/
structure Message where
  doc : String
  name : String
  rows : List Row

/-- The lines of a message. -/
def Message.lines (m : Message) : List String :=
  ("// " ++ m.doc) :: ("message " ++ m.name ++ " \x7b") :: m.rows.flatMap Row.lines ++ ["\x7d"]

/-- A message as it is written. -/
def Message.text (m : Message) : String :=
  Text.ended m.lines

/-- A field has a scalar type or the path of a message, an identifier for a name, and texts that do not
break the line. -/
structure Row.WellFormed (r : Row) : Prop where
  note : ∀ note ∈ r.note, OneLine note
  type : r.type ∈ scalars ∨ IsPath r.type
  name : isProtoIdentifier r.name = true
  hint : ∀ hint ∈ r.hint, OneLine hint

/-- A message has an identifier for a name, and its fields are numbered from one. -/
structure Message.WellFormed (m : Message) : Prop where
  doc : OneLine m.doc
  name : isProtoIdentifier m.name = true
  rows : ∀ r ∈ m.rows, r.WellFormed
  numbers : m.rows.map Row.number = List.range' 1 m.rows.length

/-- The lines of a well-formed row have no line break of their own. -/
theorem Row.WellFormed.oneLine {r : Row} (h : r.WellFormed) : ∀ l ∈ r.lines, OneLine l := by
  have htype : OneLine r.type := h.type.elim oneLine_of_mem_scalars IsPath.oneLine
  have hname := oneLine_of_isProtoIdentifier h.name
  have hlabel : OneLine (if r.optional then "optional " else "") := by
    split <;> simp [OneLine]
  have hhint : OneLine (match r.hint with | some hint => " [" ++ hint ++ "]" | none => "") := by
    split
    · rename_i hint hmem
      have := h.hint hint hmem
      simp only [oneLine_append, this, and_true]
      simp [OneLine]
    · simp [OneLine]
  intro l hl
  rcases List.mem_append.mp hl with hnote | hrow
  · obtain ⟨note, hmem, rfl⟩ := List.mem_map.mp hnote
    exact oneLine_append.mpr ⟨by simp [OneLine], h.note note (Option.mem_toList.mp hmem)⟩
  · obtain rfl := List.mem_singleton.mp hrow
    simp only [Row.text, oneLine_append, htype, hname, hlabel, hhint, oneLine_toString, and_true]
    simp [OneLine]

/-- The lines of a well-formed message have no line break of their own. -/
theorem Message.WellFormed.oneLine {m : Message} (h : m.WellFormed) : ∀ l ∈ m.lines, OneLine l := by
  have hname := oneLine_of_isProtoIdentifier h.name
  intro l hl
  simp only [Message.lines, List.mem_append, List.mem_cons, List.mem_flatMap, List.not_mem_nil,
    or_false] at hl
  rcases hl with (rfl | rfl | ⟨r, hr, hl⟩) | rfl
  · exact oneLine_append.mpr ⟨by simp [OneLine], h.doc⟩
  · simp only [oneLine_append, hname, and_true]
    simp [OneLine]
  · exact (h.rows r hr).oneLine l hl
  · simp [OneLine]

/-- The lines of a message can be read back. -/
theorem Message.WellFormed.lines_text {m : Message} (h : m.WellFormed) :
    Text.lines m.text.toList = m.lines.map String.toList ++ [[]] :=
  Text.lines_ended h.oneLine

/-! ## Files -/

/-- A file: the comment at its top, the package, the imports, the options and the messages. -/
structure File where
  banner : List String
  package : Option String
  imports : List String
  options : List (String × String)
  messages : List Message

/-- Lines and an empty line behind them; nothing without lines. -/
def paragraph (ls : List String) : List String :=
  if ls = [] then [] else ls ++ [""]

/-- The line of an import. -/
def importLine (path : String) : String :=
  "import \"" ++ path ++ "\";"

/-- The lines in front of the messages. -/
def File.preamble (f : File) : List String :=
  paragraph (f.banner.map fun line => "// " ++ line) ++ ["syntax = \"proto3\";", ""] ++
    paragraph (f.package.toList.map fun name => "package " ++ name ++ ";") ++
    paragraph (f.imports.map importLine) ++
    paragraph (f.options.map fun o => "option " ++ o.1 ++ " = \"" ++ o.2 ++ "\";")

/-- The lines of a file. -/
def File.lines (f : File) : List String :=
  f.preamble ++ List.intercalate [""] (f.messages.map Message.lines)

/-- A file as it is written. -/
def File.text (f : File) : String :=
  Text.ended f.lines

/-- The text of a file is its preamble, line by line, and its messages with an empty line between them. -/
theorem File.text_eq (f : File) :
    f.text = Text.ended f.preamble ++ String.intercalate "\n" (f.messages.map Message.text) := by
  rw [text, lines, Text.ended_append, Text.ended_intercalate, List.map_map]
  rfl

/-- The texts of a file stay on their lines, and its messages are well formed. -/
structure File.WellFormed (f : File) : Prop where
  banner : ∀ line ∈ f.banner, OneLine line
  package : ∀ name ∈ f.package, OneLine name
  imports : ∀ path ∈ f.imports, OneLine path
  options : ∀ o ∈ f.options, OneLine o.1 ∧ OneLine o.2
  messages : ∀ m ∈ f.messages, m.WellFormed

/-- A paragraph of lines without line breaks has no others. -/
theorem oneLine_paragraph {ls : List String} (h : ∀ l ∈ ls, OneLine l) :
    ∀ l ∈ paragraph ls, OneLine l := by
  rw [paragraph]
  split
  · simp
  · exact List.forall_mem_append.mpr ⟨h, by simp [OneLine]⟩

/-- The lines of a well-formed file have no line break of their own. -/
theorem File.WellFormed.oneLine {f : File} (h : f.WellFormed) : ∀ l ∈ f.lines, OneLine l := by
  -- one part of the file after the other
  have hbanner : ∀ l ∈ f.banner.map fun line => "// " ++ line, OneLine l := by
    rw [List.forall_mem_map]
    exact fun line hline => oneLine_append.mpr ⟨by simp [OneLine], h.banner line hline⟩
  have hpackage : ∀ l ∈ f.package.toList.map fun name => "package " ++ name ++ ";", OneLine l := by
    rw [List.forall_mem_map]
    intro name hname
    simp only [oneLine_append, h.package name (Option.mem_toList.mp hname), and_true]
    simp [OneLine]
  have himports : ∀ l ∈ f.imports.map importLine, OneLine l := by
    rw [List.forall_mem_map]
    intro path hpath
    simp only [importLine, oneLine_append, h.imports path hpath, and_true]
    simp [OneLine]
  have hoptions : ∀ l ∈ f.options.map fun o => "option " ++ o.1 ++ " = \"" ++ o.2 ++ "\";",
      OneLine l := by
    rw [List.forall_mem_map]
    intro o ho
    simp only [oneLine_append, h.options o ho, and_true]
    simp [OneLine]
  have hmessages : ∀ l ∈ List.intercalate [""] (f.messages.map Message.lines), OneLine l := by
    intro l hl
    rcases mem_or_mem_of_mem_intercalate hl with hsep | ⟨ls, hls, hl⟩
    · rw [List.mem_singleton.mp hsep]
      simp [OneLine]
    · obtain ⟨m, hm, rfl⟩ := List.mem_map.mp hls
      exact (h.messages m hm).oneLine l hl
  have hproto : ∀ l ∈ ["syntax = \"proto3\";", ""], OneLine l := by
    simp [OneLine]
  simp only [File.lines, File.preamble, List.forall_mem_append]
  exact ⟨⟨⟨⟨⟨oneLine_paragraph hbanner, hproto⟩, oneLine_paragraph hpackage⟩,
    oneLine_paragraph himports⟩, oneLine_paragraph hoptions⟩, hmessages⟩

/-- Does the line start as an import? -/
def isImport (l : String) : Bool :=
  "import ".toList.isPrefixOf l.toList

/-- The import lines of a text. -/
def importLines (text : String) : List String :=
  ((Text.lines text.toList).map String.ofList).filter isImport

/-- The empty line that ends a paragraph is no import. -/
theorem filter_isImport_paragraph (ls : List String) :
    (paragraph ls).filter isImport = ls.filter isImport := by
  rw [paragraph]
  split
  · rename_i h
    rw [h]
  · rw [List.filter_append]
    simp [isImport]

/-- No line of a message is an import. -/
theorem isImport_eq_false_of_mem_lines {m : Message} : ∀ l ∈ m.lines, isImport l = false := by
  intro l hl
  simp only [Message.lines, Row.lines, Row.text, List.mem_append, List.mem_cons, List.mem_flatMap,
    List.mem_map, List.not_mem_nil, or_false] at hl
  rcases hl with (rfl | rfl | ⟨r, -, ⟨note, -, rfl⟩ | rfl⟩) | rfl <;> simp [isImport, List.isPrefixOf]

/-- **The import lines of a file are those of its imports.** -/
theorem File.WellFormed.importLines_text {f : File} (h : f.WellFormed) :
    importLines f.text = f.imports.map importLine := by
  have hbanner : (f.banner.map fun line => "// " ++ line).filter isImport = [] := by
    simp [isImport]
  have hproto : ["syntax = \"proto3\";", ""].filter isImport = [] := by
    simp [isImport]
  have hpackage : (f.package.toList.map fun name => "package " ++ name ++ ";").filter isImport = [] := by
    simp [isImport]
  have himports : (f.imports.map importLine).filter isImport = f.imports.map importLine := by
    simp [isImport, importLine]
  have hoptions : (f.options.map fun o =>
      "option " ++ o.1 ++ " = \"" ++ o.2 ++ "\";").filter isImport = [] := by
    simp [isImport, List.filter_map, Function.comp_def, List.isPrefixOf]
  have hmessages : (List.intercalate [""] (f.messages.map Message.lines)).filter isImport = [] := by
    rw [List.filter_eq_nil_iff]
    intro l hl
    rcases mem_or_mem_of_mem_intercalate hl with hsep | ⟨ls, hls, hl⟩
    · rw [List.mem_singleton.mp hsep]
      simp [isImport]
    · obtain ⟨m, -, rfl⟩ := List.mem_map.mp hls
      rw [isImport_eq_false_of_mem_lines l hl]
      exact Bool.false_ne_true
  have hend : [""].filter isImport = [] := by
    simp [isImport]
  -- no line has a break of its own, so the text is cut into exactly the lines it was made of
  have hlines : (Text.lines f.text.toList).map String.ofList = f.lines ++ [""] := by
    rw [File.text, Text.lines_ended h.oneLine, List.map_append, List.map_map]
    simp [Function.comp_def]
  simp only [importLines, hlines, File.lines, File.preamble, List.filter_append,
    filter_isImport_paragraph, hbanner, hproto, hpackage, himports, hoptions, hmessages, hend,
    List.nil_append, List.append_nil]

end Tablewright.Proto

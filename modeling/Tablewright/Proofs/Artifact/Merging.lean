import Tablewright.Proofs.Artifact.GoIdentifiers
import Tablewright.Proofs.Dict

/-! # One file for several entities

An artifact for several entities is put together from what would be written for each of them alone.
The script that creates tables is joined from the scripts of the tables. A file of models has the
bodies of the files of its entities one behind the other, and imports what any of them imports
(`GoModel.imports_pairwise`, `GoModel.mem_imports_iff_exists`).

* `Backend.emit_eq_error_iff`: the first entity that is refused on its own decides the failure.
* `Backend.emit_merged`: one file holds what the files of the single entities hold. -/

namespace Tablewright.Artifact

/-! ## Refusals -/

namespace Backend

/-- Entities are refused for the reason that there is for a text of one of them. -/
theorem emit_eq_error_iff_mapM (b : Backend) (es : List Entity) (err : EmitError) :
    b.emit es = .error err ↔ es.mapM b.text = .error err := by
  obtain ⟨join, hjoin⟩ := b.exists_emit_eq es
  rw [hjoin, map_eq_error_iff]

/-- A single entity is refused with the error that its text is. -/
theorem emit_singleton_eq_error_iff (b : Backend) (e : Entity) (err : EmitError) :
    b.emit [e] = .error err ↔ b.text e = .error err := by
  rw [emit_eq_error_iff_mapM, mapM_singleton, map_eq_error_iff]

/-- **The first entity that is refused on its own decides the failure.** -/
theorem emit_eq_error_iff (b : Backend) (es : List Entity) (err : EmitError) :
    b.emit es = .error err ↔
      ∃ before e after, es = before ++ e :: after ∧ (∀ d ∈ before, ∃ t, b.emit [d] = .ok t) ∧
        b.emit [e] = .error err := by
  simp only [emit_eq_error_iff_mapM b es, mapM_eq_error_iff, exists_emit_singleton_iff,
    emit_singleton_eq_error_iff]

end Backend

/-! ## Table scripts -/

/-- The script of one table is its statement and an empty line. -/
theorem TableScript.emit_singleton {s : TableScript} (hheader : s.header.disabled = true)
    (e : Entity) : s.emit [e] = (createTable e).map fun t => t ++ "\n" := by
  rw [emit, mapM_singleton, Header.render, if_pos hheader]
  cases createTable e with
  | error cause => rfl
  | ok t =>
      show Except.ok ("" ++ String.intercalate "\n\n" [t] ++ "\n") = Except.ok (t ++ "\n")
      rw [String.intercalate_singleton, String.empty_append]

/-- Texts joined by empty lines, and a line feed behind them, are the ended texts joined by line
feeds. -/
theorem intercalate_append_newline {ts : List String} (hne : ts ≠ []) :
    String.intercalate "\n\n" ts ++ "\n" =
      String.intercalate "\n" (ts.map fun t => t ++ "\n") := by
  induction ts with
  | nil => contradiction
  | cons t ts ih =>
      cases ts with
      | nil => rw [List.map_singleton, String.intercalate_singleton, String.intercalate_singleton]
      | cons u ts =>
          have htail := ih (List.cons_ne_nil u ts)
          have hbreaks : "\n\n" = "\n" ++ "\n" := rfl
          rw [List.map_cons, List.map_cons, String.intercalate_cons_cons,
            String.intercalate_cons_cons, ← List.map_cons (f := fun t => t ++ "\n"), ← htail, hbreaks]
          simp only [String.append_assoc]

/-- **The script of several tables joins the scripts of the tables.** -/
theorem TableScript.emit_eq_intercalate {s : TableScript} (hheader : s.header.disabled = true)
    {es : List Entity} (hne : es ≠ []) {texts : List String}
    (htexts : es.map (fun e => s.emit [e]) = texts.map .ok) :
    s.emit es = .ok (String.intercalate "\n" texts) := by
  simp only [emit_singleton hheader] at htexts
  obtain ⟨ts, hts, hended⟩ := exists_mapM_eq_ok_of_map htexts
  have hlength : ts.length = es.length := length_of_mapM_eq_ok hts
  -- a script by itself is its text with one line break
  have hlines : texts = ts.map fun t => t ++ "\n" := by
    calc
      texts = List.zipWith (fun _ t => t ++ "\n") es ts := hended
      _ = (es.zip ts).map fun p => p.2 ++ "\n" := List.map_uncurry_zip_eq_zipWith.symm
      _ = ((es.zip ts).map Prod.snd).map fun t => t ++ "\n" := by rw [List.map_map]; rfl
      _ = ts.map fun t => t ++ "\n" := by rw [List.map_snd_zip (Nat.le_of_eq hlength)]
  have htsne : ts ≠ [] := by
    rintro rfl
    exact hne (List.length_eq_zero_iff.mp hlength.symm)
  rw [emit, hts, hlines, ← intercalate_append_newline htsne, Header.render, if_pos hheader]
  show Except.ok ("" ++ String.intercalate "\n\n" ts ++ "\n") = _
  rw [String.empty_append]

/-! ## Go models -/

namespace GoModel

/-- A file without a header: its package, a block with a line for each of some paths unless there is none,
and its body. -/
def file (m : GoModel) (paths : List String) (body : String) : String :=
  "package " ++ m.package ++ "\n\n" ++
    (if paths = [] then ""
    else "import (\n" ++ String.join (paths.map fun p => "\t\"" ++ p ++ "\"\n") ++ ")\n\n") ++ body

/-- Import paths stand in ascending order, none of them twice. -/
theorem imports_pairwise (es : List Entity) : (imports es).Pairwise (· < ·) :=
  Dict.pairwise_keys _

/-- What entities import: the packages of the types of their fields. -/
theorem mem_imports {es : List Entity} {p : String} :
    p ∈ imports es ↔ p ≠ "" ∧ ∃ e ∈ es, ∃ f ∈ e.fields, f.goType.pkgPath = p := by
  rw [imports, Dict.mem_keys_ofList]
  simp [and_comm]

/-- Several entities import what any of them imports. -/
theorem mem_imports_iff_exists {es : List Entity} {p : String} :
    p ∈ imports es ↔ ∃ e ∈ es, p ∈ imports [e] := by
  simp only [mem_imports, List.mem_singleton, exists_eq_left]
  constructor
  · rintro ⟨hp, e, he, hfield⟩
    exact ⟨e, he, hp, hfield⟩
  · rintro ⟨e, he, hp, hfield⟩
    exact ⟨hp, e, he, hfield⟩

/-- Without a header the models of entities are a file with their imports and their structs. -/
theorem emit_eq_map {m : GoModel} (hheader : m.header.disabled = true) (es : List Entity) :
    m.emit es = (es.mapM entity).map fun bodies =>
      m.file (imports es) (String.intercalate "\n" bodies) := by
  rw [emit, Header.render, if_pos hheader]
  cases es.mapM entity with
  | error cause => rfl
  | ok bodies =>
      show Except.ok ("" ++ "package " ++ m.package ++ "\n\n" ++ importBlock (imports es) ++ _) = _
      rw [String.empty_append]
      rfl

/-- The file of one entity has its struct for a body. -/
theorem emit_singleton {m : GoModel} (hheader : m.header.disabled = true) (e : Entity) :
    m.emit [e] = (entity e).map fun body => m.file (imports [e]) body := by
  rw [emit_eq_map hheader, mapM_singleton]
  cases entity e with
  | error cause => rfl
  | ok body =>
      show Except.ok (m.file (imports [e]) (String.intercalate "\n" [body])) = _
      rw [String.intercalate_singleton]
      rfl

/-- **The file of several entities has the bodies of their files for a body**, joined by line
feeds. -/
theorem exists_emit_eq_file {m : GoModel} (hheader : m.header.disabled = true) {es : List Entity}
    {texts : List String} (htexts : es.map (fun e => m.emit [e]) = texts.map .ok) :
    ∃ bodies, bodies.length = es.length ∧
      texts = List.zipWith (fun e body => m.file (imports [e]) body) es bodies ∧
      m.emit es = .ok (m.file (imports es) (String.intercalate "\n" bodies)) := by
  simp only [emit_singleton hheader] at htexts
  obtain ⟨bodies, hbodies, hfiles⟩ := exists_mapM_eq_ok_of_map htexts
  refine ⟨bodies, length_of_mapM_eq_ok hbodies, hfiles, ?_⟩
  rw [emit_eq_map hheader, hbodies]
  rfl

end GoModel

/-! ## All backends -/

/-- **One file for several entities holds what the files of the single entities hold.** It is written if
each of those is, and otherwise refused as the first of them that is refused. Without headers, the
script of several tables joins their scripts by line feeds. The file of models is a package line, a block
with one line for each import, which is left out without imports, and a body; that of several models has
their bodies for a body, joined by line feeds. Its imports are in ascending order, nothing twice, and are
what any of the files of its entities imports: the packages of the types of their fields. -/
theorem Backend.emit_merged {es : List Entity} (hne : es ≠ []) :
    (∀ b : Backend,
      ((∃ t, b.emit es = .ok t) ↔ ∀ e ∈ es, ∃ t, b.emit [e] = .ok t) ∧
        ∀ err, b.emit es = .error err ↔
          ∃ before e after, es = before ++ e :: after ∧ (∀ d ∈ before, ∃ t, b.emit [d] = .ok t) ∧
            b.emit [e] = .error err) ∧
    (∀ s : TableScript, s.header.disabled = true → ∀ texts : List String,
      es.map (fun e => (sql s).emit [e]) = texts.map .ok →
        (sql s).emit es = .ok (String.intercalate "\n" texts)) ∧
    (∀ m : GoModel, m.header.disabled = true →
      let file (paths : List String) (body : String) : String :=
        "package " ++ m.package ++ "\n\n" ++
          (if paths = [] then ""
          else "import (\n" ++ String.join (paths.map fun p => "\t\"" ++ p ++ "\"\n") ++ ")\n\n") ++ body
      ∀ texts : List String, es.map (fun e => (model m).emit [e]) = texts.map .ok →
        ∃ bodies : List String, bodies.length = es.length ∧
          texts = List.zipWith (fun e body => file (GoModel.imports [e]) body) es bodies ∧
          (model m).emit es =
            .ok (file (GoModel.imports es) (String.intercalate "\n" bodies))) ∧
    (GoModel.imports es).Pairwise (· < ·) ∧
    (∀ p, p ∈ GoModel.imports es ↔ ∃ e ∈ es, p ∈ GoModel.imports [e]) ∧
    ∀ e p, p ∈ GoModel.imports [e] ↔ p ≠ "" ∧ ∃ f ∈ e.fields, f.goType.pkgPath = p := by
  refine ⟨fun b => ⟨b.accepts_iff es, b.emit_eq_error_iff es⟩, ?_, ?_,
    GoModel.imports_pairwise es, fun p => GoModel.mem_imports_iff_exists, fun e p => ?_⟩
  · intro s hheader texts htexts
    exact TableScript.emit_eq_intercalate hheader hne htexts
  · intro m hheader file texts htexts
    exact GoModel.exists_emit_eq_file hheader htexts
  · rw [GoModel.mem_imports]
    simp only [List.mem_singleton, exists_eq_left]

/-- The models of two tables, the first of which needs a package that comes behind that of the
second. -/
theorem Backend.emit_merged_two :
    let user : Table :=
      { (default : Table) with
        name := "user", columns := [{ (default : Column) with name := "at", rawType := "datetime" }] }
    let post : Table :=
      { (default : Table) with
        name := "post", columns := [{ (default : Column) with name := "body", rawType := "json" }] }
    let es : List Entity := [.ofKinds .standard user [.time], .ofKinds .standard post [.json]]
    let m : GoModel := ⟨"model", .none⟩
    es ≠ [] ∧ m.header.disabled = true ∧
      ∃ first second : String,
        (model m).emit es = .ok ("package model\n\nimport (\n\t\"encoding/json\"\n\t\"time\"\n)\n\n" ++
          (first ++ "\n" ++ second)) := by
  intro user post es m
  have hne : es ≠ [] := List.cons_ne_nil _ _
  obtain ⟨haccept, -, hmodel, -⟩ := emit_merged hne
  have haccepted : ∀ e ∈ es, ∃ t, (model m).emit [e] = .ok t := by
    intro e he
    refine (GoModel.exists_emit_iff m e).mpr ?_
    revert e
    decide +kernel
  obtain ⟨texts, htexts⟩ := exists_mapM_eq_ok haccepted
  obtain ⟨bodies, hlength, -, hemit⟩ := hmodel m rfl texts (mapM_eq_ok_iff.mp htexts)
  have himports : GoModel.imports es = ["encoding/json", "time"] := by
    decide +kernel
  match bodies, hlength with
  | [first, second], _ =>
      refine ⟨hne, rfl, first, second, ?_⟩
      rw [hemit, himports, String.intercalate_cons_cons, String.intercalate_singleton]
      rfl

end Tablewright.Artifact

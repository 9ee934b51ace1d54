import Tablewright.Proofs.Artifact.AccessorNames

/-! # Names in Go files

The name of a table stands in two Go files: its model returns it, and its accessors have a constant for
it, as they have for every column. What these are is read off the declarations.

* `literals_of_names`: the model always returns the name of the table, which it writes with escapes. The
  constants of the accessors are names between quotes as they are, so a constant stands for its name
  exactly if that is plain.
* `constant_of_no_name`: a quote in the name of a column leaves its constant without a value. -/

namespace Tablewright.Artifact

open Go (Func quoted)

/-! ## The method of a model -/

namespace GoModel

/-- The method that gives the name of the table. -/
def nameMethod (e : Entity) : Func where
  note := some "TableName implement schema.Tabler interface"
  receiver := some ("", e.structName)
  name := "TableName"
  params := ""
  result := "string"
  body := .value (.atom (goLiteral e.name))

/-- The lines of the struct of an entity, with an empty line behind them. -/
def structText (e : Entity) : String :=
  docLine e.structName e.comment ++ "type " ++ e.structName ++ " struct \x7b\n" ++
    String.join (e.fields.map fun f => fieldLine f ++ "\n") ++ "\x7d\n\n"

/-- What stands in front of the method. -/
def opening (g : GoModel) (e : Entity) : String :=
  g.header.render "//" ++ "package " ++ g.package ++ "\n\n" ++ importBlock (imports [e]) ++
    structText e

/-- The text of an entity is its struct and the declared method for the table name. -/
theorem body_eq_source (e : Entity) :
    body e = structText e ++ Go.source [.func (nameMethod e)] := by
  rw [← String.toList_inj]
  simp [body, structText, Go.source, nameMethod]

/-- **The model of an entity ends with the source of its method.** -/
theorem emit_eq_source {g : GoModel} {e : Entity} {text : String} (h : g.emit [e] = .ok text) :
    text = g.opening e ++ Go.source [.func (nameMethod e)] := by
  rw [emit, mapM_singleton] at h
  cases hentity : entity e with
  | error err =>
      rw [hentity] at h
      contradiction
  | ok struct =>
      rw [hentity] at h
      obtain rfl : body e = struct := by
        rw [entity] at hentity
        split at hentity
        · contradiction
        · exact Except.ok.inj hentity
      rw [← Except.ok.inj h, String.intercalate_singleton, body_eq_source, ← String.append_assoc]
      rfl

/-- The method found under `TableName` is the declared one. -/
theorem method?_name (e : Entity) :
    Go.method? e.structName "TableName" [.func (nameMethod e)] = some (nameMethod e).body := by
  simp [Go.method?, Go.methods, Go.functions, nameMethod]

end GoModel

/-! ## The names of a built entity -/

namespace Accessors

/-- The field of an accessor has the name of the column that the accessor is for. -/
theorem names_accessorFields {m : Dialect.Mapper} {o : Options} {t : Table} {e : Entity}
    (h : Entity.build m o t = .ok e) :
    (accessorFields e).map Field.name = t.columns.map Column.name := by
  obtain ⟨kinds, hlength, rfl⟩ := Entity.exists_ofKinds_eq h
  rw [accessorFields, Entity.map_resolveNames fun x name => rfl]
  exact Entity.names_ofKinds hlength

/-- The constant for a column is written with the name of the column. -/
theorem columnConst_mem_of_build {m : Dialect.Mapper} {o : Options} {t : Table} {e : Entity}
    (h : Entity.build m o t = .ok e) (a : Accessors) {i : Nat} {c : Column} {n : String}
    (hc : t.columns[i]? = some c) (hn : (names e)[i]? = some n) :
    (columnConst e.structName n, quoted c.name) ∈ Go.constants (a.declarations e) := by
  rw [names_eq, List.getElem?_map] at hn
  obtain ⟨f, hf, rfl⟩ := Option.map_eq_some_iff.mp hn
  have hname : f.name = c.name := by
    have hnames := congrArg (·[i]?) (names_accessorFields h)
    simpa [hf, hc] using hnames
  rw [← hname]
  exact columnConst_mem_constants a (List.mem_of_getElem? hf)

end Accessors

open Accessors (names tableConst columnConst value?)

variable {m : Dialect.Mapper} {o : Options} {t : Table} {e : Entity} {g : GoModel} {a : Accessors}
  {model accessors : String}

/-- **What the names in Go files stand for.** The model of a built table returns the name of the table,
whatever it is made of. Among its accessors the constants of the table and of its columns stand for
these names exactly if they are plain. -/
theorem literals_of_names (hbuild : Entity.build m o t = .ok e) (hmodel : g.emit [e] = .ok model)
    (haccessors : a.emit [e] = .ok accessors) :
    (∃ front file literal, model = front ++ Go.source file ∧
      Go.method? e.structName "TableName" file = some (.value (.atom literal)) ∧
      Go.literalValue? literal = some (Go.utf8 t.name.toList)) ∧
    accessors = a.opening ++ Go.source (a.declarations e) ∧
    (value? (tableConst e.structName) (a.declarations e) = some (Go.utf8 t.name.toList) ↔
      Go.Plain t.name) ∧
    ∀ (i : Nat) (c : Column) (n : String), t.columns[i]? = some c → (names e)[i]? = some n →
      (value? (columnConst e.structName n) (a.declarations e) = some (Go.utf8 c.name.toList) ↔
        Go.Plain c.name) := by
  have hname : t.name = e.name := by
    obtain ⟨kinds, -, rfl⟩ := Entity.exists_ofKinds_eq hbuild
    rfl
  refine ⟨⟨_, _, GoModel.goLiteral e.name, GoModel.emit_eq_source hmodel, GoModel.method?_name e, ?_⟩,
    Accessors.emit_eq_source haccessors, ?_, fun i c n hc hn => ?_⟩
  · rw [hname]
    -- the model escapes the name
    exact Go.literalValue?_goLiteral e.name
  · rw [hname]
    -- accessors put names between quotes as they are
    exact Accessors.value?_eq_iff (Accessors.tableConst_mem_constants a e)
  · exact Accessors.value?_eq_iff (Accessors.columnConst_mem_of_build hbuild a hc hn)

/-- In the table `user` the constant of the column `id` stands for it, and that of `new\name` does not
stand for `new\name`. -/
theorem literals_of_names_user :
    let t : Table :=
      { (default : Table) with
        name := "user",
        columns := ["id", "new\\name"].map fun name =>
          { (default : Column) with name := name, rawType := "int" } }
    let e : Entity := .ofKinds .standard t [.int32, .int32]
    let file := (default : Accessors).declarations e
    Entity.build Dialect.mysql .standard t = .ok e ∧
      (∃ text, (default : GoModel).emit [e] = .ok text) ∧
      (∃ text, (default : Accessors).emit [e] = .ok text) ∧
      value? "xx_User_Id" file = some (Go.utf8 "id".toList) ∧
      value? "xx_User_NewName" file ≠ some (Go.utf8 "new\\name".toList) := by
  intro t e file
  have hbuild : Entity.build Dialect.mysql .standard t = .ok e := by rfl
  obtain ⟨model, hmodel⟩ : ∃ text, (default : GoModel).emit [e] = .ok text := by
    rw [GoModel.exists_emit_iff]
    decide +kernel
  obtain ⟨accessors, haccessors⟩ : ∃ text, (default : Accessors).emit [e] = .ok text := by
    rw [Accessors.exists_emit_iff]
    decide +kernel
  obtain ⟨-, -, -, hconst⟩ := literals_of_names hbuild hmodel haccessors
  have hid := hconst 0 _ "Id" rfl (by decide +kernel)
  have hname := hconst 1 _ "NewName" rfl (by decide +kernel)
  have hstruct : e.structName = "User" := by decide +kernel
  rw [hstruct] at hid hname
  refine ⟨hbuild, ⟨model, hmodel⟩, ⟨accessors, haccessors⟩, hid.mpr ?_, fun h => ?_⟩
  · decide
  · exact absurd (hname.mp h) (by decide)

/-- **The constant of a column may not stand for it**: not that of a column `a"b`, which is written
`"a"b"`. -/
theorem constant_of_no_name :
    ¬ ∀ (m : Dialect.Mapper) (o : Options) (t : Table) (e : Entity), Entity.build m o t = .ok e →
      ∀ (g : GoModel) (model : String), g.emit [e] = .ok model →
        ∀ (a : Accessors) (accessors : String), a.emit [e] = .ok accessors →
          value? (tableConst e.structName) (a.declarations e) = some (Go.utf8 t.name.toList) ∧
          ∀ (i : Nat) (c : Column) (n : String), t.columns[i]? = some c → (names e)[i]? = some n →
            value? (columnConst e.structName n) (a.declarations e) =
              some (Go.utf8 c.name.toList) := by
  intro hclaim
  let t : Table :=
    { (default : Table) with
      name := "user", columns := [{ (default : Column) with name := "a\"b", rawType := "int" }] }
  let e : Entity := .ofKinds .standard t [.int32]
  have hbuild : Entity.build Dialect.mysql .standard t = .ok e := by rfl
  obtain ⟨model, hmodel⟩ : ∃ text, (default : GoModel).emit [e] = .ok text := by
    rw [GoModel.exists_emit_iff]
    decide +kernel
  obtain ⟨accessors, haccessors⟩ : ∃ text, (default : Accessors).emit [e] = .ok text := by
    rw [Accessors.exists_emit_iff]
    decide +kernel
  have hname : (names e)[0]? = some "AB" := by decide +kernel
  have hvalue := (hclaim _ _ t e hbuild _ model hmodel _ accessors haccessors).2 0 _ "AB" rfl hname
  -- a constant of that value would have a plain name behind it
  have hplain := (Accessors.value?_eq_iff
    (Accessors.columnConst_mem_of_build hbuild default rfl hname)).mp hvalue
  exact absurd hplain (by decide)

end Tablewright.Artifact

import Tablewright.Proofs.Artifact.GoIdentifiers
import Tablewright.Proofs.Artifact.GoSource
import Tablewright.Proofs.Text.GoLiteral

/-! # What a file of accessors declares

What is written for an entity are Go declarations (`Accessors.declarations`): constants, the shared
value, the type with its functions and methods. Each block of lines is the source of some of them, so
the whole file is the source of all (`Accessors.emit_eq_source`). What it declares can then be read off
the declarations: `constants_declarations`, `members_declarations`, `methods_declarations` and the
bodies of the functions that go through all fields. -/

namespace Tablewright.Artifact.Accessors

open Go (Expr Setting Body Member Func Decl quoted)

/-! ## The rows of a field -/

/-- The type that holds the accessors. -/
def nativeType (struct : String) : String :=
  struct ++ "_Native"

/-- The variable that holds the shared value of the type. -/
def sharedVar (struct : String) : String :=
  "xxx_" ++ struct ++ "_Model"

/-- The accessor of a field. -/
def accessor (f : Field) : Expr :=
  .member (.atom "x") f.goName

/-- The member of a field. -/
def fieldMember (f : Field) : Member :=
  ⟨f.goName, 1, "rapier." ++ f.rapierKind.name⟩

/-- What the member of a field is set to: an accessor of its kind for its constant. -/
def fieldSetting (struct : String) (f : Field) : Setting :=
  ⟨f.goName, 1, .call (.member (.atom "rapier") ("New" ++ f.rapierKind.name))
    [.atom "xAlias", .atom (columnConst struct f.goName)]⟩

/-- The number of a time. -/
def stamp (f : Field) : Expr :=
  let number : Expr := .call (.member (accessor f) "UnixTimestamp") []
  if f.nullable then .call (.member number "IfNull") [.atom "0"] else number

/-- The expression that selects a field, a time as a number. -/
def variantExpr (withPrefixes : Bool) (f : Field) : Expr :=
  let number := if f.kind = .time then stamp f else accessor f
  if withPrefixes then
    .call (.member number "As") [.call (.member (accessor f) "FieldName") [.atom "prefixes..."]]
  else if f.kind = .time then
    .call (.member number "As") [.call (.member (accessor f) "ColumnName") []]
  else number

/-- Under prefixes or not, a field is selected by its accessor. -/
theorem root?_variantExpr (withPrefixes : Bool) (f : Field) :
    (variantExpr withPrefixes f).root? "x" = some f.goName := by
  by_cases htime : f.kind = .time <;> cases hnull : f.nullable <;> cases withPrefixes <;>
    simp [variantExpr, stamp, accessor, Expr.root?, htime, hnull]

/-- The text that selects a field is its expression with a comma. -/
theorem variant_eq_text (f : Field) (withPrefixes : Bool) :
    variant f withPrefixes = (variantExpr withPrefixes f).text ++ "," := by
  rw [← String.toList_inj]
  by_cases htime : f.kind = .time <;> cases hnull : f.nullable <;> cases withPrefixes <;>
    simp [variant, variantExpr, stamp, accessor, htime, hnull]

/-! ## The declarations -/

section

variable (struct table model : String) (fields : List Field)

/-- The constants of the table name and the column names. -/
def constDecl : Decl :=
  .consts <|
    [.note ("hold model `" ++ struct ++ "` table name"),
     .binding (tableConst struct) (quoted table),
     .note ("hold model `" ++ struct ++ "` column name")] ++
    fields.map fun f => .binding (columnConst struct f.goName) (quoted f.name)

/-- The variable of the shared value. -/
def sharedDecl : Decl :=
  .var (sharedVar struct) (.call (.atom ("new_" ++ struct)) [.atom (tableConst struct)])

/-- The type. -/
def typeDecl : Decl :=
  .struct (nativeType struct) <|
    [⟨"xAlias", 1, "string"⟩, ⟨"ALL", 4, "rapier.Asterisk"⟩] ++ fields.map fieldMember

/-- The function that gives the shared value. -/
def sharedFunc : Func where
  note := some ("X_" ++ struct ++ " model with TableName `" ++ table ++ "`.")
  receiver := none
  name := "X_" ++ struct
  params := ""
  result := nativeType struct
  body := .value (.atom (sharedVar struct))

/-- The function that builds a value. -/
def builderFunc : Func where
  note := none
  receiver := none
  name := "new_" ++ struct
  params := "xAlias string"
  result := nativeType struct
  body := .struct (nativeType struct) <|
    [⟨"xAlias", 1, .atom "xAlias"⟩,
     ⟨"ALL", 4, .call (.member (.atom "rapier") "NewAsterisk") [.atom "xAlias"]⟩] ++
    fields.map (fieldSetting struct)

/-- The function that gives the shared value for the name of the table, and builds one for another
alias. -/
def newFunc : Func where
  note := some ("New_" ++ struct ++ " new instance.")
  receiver := none
  name := "New_" ++ struct
  params := "xAlias string"
  result := nativeType struct
  body := .branch ("xAlias == " ++ tableConst struct) (.value (.atom (sharedVar struct)))
    (.value (.call (.atom ("new_" ++ struct)) [.atom "xAlias"]))

/-- The methods that do not depend on the fields. -/
def plainMethods : List Func :=
  let self := nativeType struct
  [⟨some "As alias", some ("", self), "As", "alias string", self,
      .value (.call (.atom ("New_" ++ struct)) [.atom "alias"])⟩,
   ⟨some ("X_Alias hold table name when call New_" ++ struct ++ " or " ++ self ++
        ".As that you defined."), some ("x", self), "X_Alias", "", "string",
      .value (.member (.atom "x") "xAlias")⟩,
   ⟨some ("TableName hold model `" ++ struct ++ "` table name returns `" ++ table ++ "`."),
      some ("", self), "TableName", "", "string", .value (.atom (tableConst struct))⟩,
   ⟨some "New_Executor new entity executor which suggest use only once.", some ("", self),
      "New_Executor", "db *gorm.DB", "*rapier.Executor[" ++ model ++ "]",
      .value (.call (.member (.atom "rapier") ("NewExecutor[" ++ model ++ "]")) [.atom "db"])⟩]

/-- The method that selects all fields. -/
def selectMethod : Func where
  note := some "Select_Expr select model fields"
  receiver := some ("x", nativeType struct)
  name := "Select_Expr"
  params := ""
  result := "[]rapier.Expr"
  body := .slice "rapier.Expr" (fields.map accessor)

/-- The method that selects all fields, times as numbers, possibly under prefixes. -/
def variantMethod : Func where
  note := some
    "Select_VariantExpr select model fields, but time.Time field convert to timestamp(int64)."
  receiver := some ("x", nativeType struct)
  name := "Select_VariantExpr"
  params := "prefixes ...string"
  result := "[]rapier.Expr"
  body := .branch "len(prefixes) > 0 && prefixes[0] != \"\""
    (.slice "rapier.Expr" (fields.map (variantExpr true)))
    (.slice "rapier.Expr" (fields.map (variantExpr false)))

end

/-- The fields of an entity under the names of their accessors. -/
def accessorFields (e : Entity) : List Field :=
  (e.resolveNames nativeMembers).fields

/-- The functions and methods for an entity. -/
def funcs (a : Accessors) (e : Entity) : List Func :=
  [sharedFunc e.structName e.name, builderFunc e.structName (accessorFields e),
    newFunc e.structName] ++
  plainMethods e.structName e.name (a.modelQualifier ++ e.structName) ++
  [selectMethod e.structName (accessorFields e), variantMethod e.structName (accessorFields e)]

/-- All declarations for an entity. -/
def declarations (a : Accessors) (e : Entity) : List Decl :=
  [constDecl e.structName e.name (accessorFields e), sharedDecl e.structName,
    typeDecl e.structName (accessorFields e)] ++ (a.funcs e).map .func

/-! ## The blocks are the source of the declarations

Both sides are compared character by character. Where their literals are long, these are spelled out by
`String.toList_ofList`, since it takes the kernel a while to compute them. -/

/-- Lists of texts are equal if they are so character by character. -/
theorem eq_of_map_toList {ls ms : List String} (h : ls.map String.toList = ms.map String.toList) :
    ls = ms :=
  (List.map_inj_right fun _ _ => String.toList_inj.mp).mp h

variable (struct table model : String) (fields : List Field)

/-- The block of constants is the declaration of the constants, then an empty line. -/
theorem constBlock_eq_lines :
    constBlock struct table fields = (constDecl struct table fields).lines ++ [""] := by
  apply eq_of_map_toList
  simp [constBlock, constDecl, quoted, Function.comp_def]

/-- The block of the type is the declaration of the type, then an empty line. -/
theorem typeBlock_eq_lines :
    typeBlock struct fields = (typeDecl struct fields).lines ++ [""] := by
  apply eq_of_map_toList
  simp [typeBlock, typeDecl, fieldMember, nativeType, Function.comp_def]

/-- The block of the shared accessor is a declared function, then an empty line. -/
theorem sharedBlock_eq_lines :
    sharedBlock struct table = (sharedFunc struct table).lines ++ [""] := by
  apply eq_of_map_toList
  simp [sharedBlock, sharedFunc, sharedVar, nativeType]

/-- The block of the builder is a declared function, then an empty line. -/
theorem builderBlock_eq_lines :
    builderBlock struct fields = (builderFunc struct fields).lines ++ [""] := by
  apply eq_of_map_toList
  simp only [builderBlock, builderFunc, Func.lines, Body.lines, Setting.text, fieldSetting, Expr.text,
    Expr.texts, nativeType, Go.spaces, List.replicate_one, List.reduceReplicate, String.ofList_cons,
    String.ofList_nil, String.reduceSingleton, String.reduceAppend, String.append_empty,
    String.intercalate_singleton, String.intercalate_cons_cons, Option.toList_none, List.map_cons,
    List.map_nil, List.map_append, List.map_map, Function.comp_def, List.cons_append, List.nil_append,
    List.append_assoc, String.toList_append]
  repeat rw [String.toList_ofList]
  simp

/-- The blocks of the constructor and the plain methods are declared functions, each with an empty line
after it. -/
theorem methodBlocks_eq_lines :
    methodBlocks struct table model =
      (newFunc struct :: plainMethods struct table model).flatMap fun f => f.lines ++ [""] := by
  apply eq_of_map_toList
  simp only [methodBlocks, newFunc, plainMethods, Func.lines, Body.lines, Expr.text, Expr.texts, sharedVar,
    nativeType, String.intercalate_singleton, String.reduceAppend, String.append_empty,
    Option.toList_some, List.flatMap_cons, List.flatMap_nil, List.map_cons, List.map_nil,
    List.cons_append, List.nil_append, List.append_nil, List.append_assoc, String.toList_append]
  repeat rw [String.toList_ofList]
  simp

/-- The block that selects all fields is a declared method, then an empty line. -/
theorem selectBlock_eq_lines :
    selectBlock struct fields = (selectMethod struct fields).lines ++ [""] := by
  apply eq_of_map_toList
  simp [selectBlock, selectMethod, accessor, nativeType, Function.comp_def]

/-- The block that selects variants is a declared method, then an empty line. -/
theorem variantBlock_eq_lines :
    variantBlock struct fields = (variantMethod struct fields).lines ++ [""] := by
  apply eq_of_map_toList
  simp only [variantBlock, variantMethod, variant_eq_text, Func.lines, Body.lines, nativeType,
    String.reduceAppend, Option.toList_some, List.map_cons, List.map_nil, List.map_append, List.map_map,
    Function.comp_def, List.cons_append, List.nil_append, List.append_assoc, String.toList_append]
  repeat rw [String.toList_ofList]
  simp

/-- The line of the shared value, between the blocks. -/
theorem sharedLine_eq_lines :
    ["var xxx_" ++ struct ++ "_Model = new_" ++ struct ++ "(" ++ tableConst struct ++ ")", ""] =
      (sharedDecl struct).lines ++ [""] := by
  apply eq_of_map_toList
  simp [sharedDecl, sharedVar]

/-- **What is written for an entity is the source of its declarations.** -/
theorem intercalate_bodyLines (a : Accessors) (e : Entity) :
    String.intercalate "\n" (a.bodyLines (e.resolveNames nativeMembers)) =
      Go.source (a.declarations e) := by
  have hlines : a.bodyLines (e.resolveNames nativeMembers) =
      (a.declarations e).flatMap fun d => d.lines ++ [""] := by
    have hstruct : (e.resolveNames nativeMembers).structName = e.structName := rfl
    have hname : (e.resolveNames nativeMembers).name = e.name := rfl
    have hfields : (e.resolveNames nativeMembers).fields = accessorFields e := rfl
    simp only [bodyLines, hstruct, hname, hfields, constBlock_eq_lines, sharedLine_eq_lines,
      typeBlock_eq_lines, sharedBlock_eq_lines, builderBlock_eq_lines, methodBlocks_eq_lines,
      selectBlock_eq_lines, variantBlock_eq_lines, declarations, funcs, List.map_append,
      List.map_cons, List.map_nil, List.flatMap_append, List.flatMap_cons, List.flatMap_nil,
      List.flatMap_map, Decl.lines, List.append_assoc, List.cons_append, List.nil_append,
      List.append_nil]
  rw [hlines, Go.source]

/-- What stands in front of the declarations. -/
def opening (a : Accessors) : String :=
  a.header.render "//" ++ "package " ++ a.package ++ "\n\nimport (\n" ++
    (if a.modelImportPath = "" then "" else "\t\"" ++ a.modelImportPath ++ "\"\n\n") ++
    "\trapier \"github.com/thinkgos/gorm-rapier\"\n\t\"gorm.io/gorm\"\n)\n\n"

/-- **The file for an entity is its opening and the source of the declarations.** -/
theorem emit_eq_source {a : Accessors} {e : Entity} {text : String} (h : a.emit [e] = .ok text) :
    text = a.opening ++ Go.source (a.declarations e) := by
  rw [emit, mapM_singleton] at h
  cases hentity : a.entity e with
  | error err =>
      rw [hentity] at h
      contradiction
  | ok body =>
      rw [hentity] at h
      have htext : a.opening ++ String.join [body] = text := Except.ok.inj h
      have hbody : body = Go.source (a.declarations e) := by
        rw [entity] at hentity
        split at hentity
        · contradiction
        · rw [← intercalate_bodyLines]
          exact (Except.ok.inj hentity).symm
      rw [← htext, ← hbody]
      simp [String.join]

/-! ## What the declarations say -/

/-- The value of a constant, if what it is bound to is a literal. -/
def value? (name : String) (file : List Decl) : Option (List UInt8) :=
  (Go.literal? name file).bind Go.literalValue?

variable (a : Accessors) (e : Entity)

/-- Every column has a constant for its name, and so has the table. -/
theorem constants_declarations :
    Go.constants (a.declarations e) =
      (tableConst e.structName, quoted e.name) ::
        (accessorFields e).map fun f => (columnConst e.structName f.goName, quoted f.name) := by
  simp [Go.constants, declarations, constDecl, sharedDecl, typeDecl, List.filterMap_map,
    List.flatMap_map]

/-- Every field has a member of the type. -/
theorem members_declarations :
    Go.members (nativeType e.structName) (a.declarations e) =
      [⟨"xAlias", 1, "string"⟩, ⟨"ALL", 4, "rapier.Asterisk"⟩] ++
        (accessorFields e).map fieldMember := by
  simp [Go.members, declarations, constDecl, sharedDecl, typeDecl, List.flatMap_map]

/-- The functions among the declarations are those of the accessors, in order. -/
theorem functions_declarations : Go.functions (a.declarations e) = a.funcs e := by
  rw [declarations, Go.functions_append, Go.functions_map_func]
  rfl

/-- The methods of the type. -/
theorem methods_declarations :
    Go.methods (nativeType e.structName) (a.declarations e) =
      plainMethods e.structName e.name (a.modelQualifier ++ e.structName) ++
        [selectMethod e.structName (accessorFields e),
          variantMethod e.structName (accessorFields e)] := by
  rw [Go.methods, functions_declarations]
  simp [funcs, sharedFunc, builderFunc, newFunc, plainMethods, selectMethod, variantMethod]

/-- The native type has these six methods and no others. -/
theorem names_methods_declarations :
    (Go.methods (nativeType e.structName) (a.declarations e)).map Func.name =
      ["As", "X_Alias", "TableName", "New_Executor", "Select_Expr", "Select_VariantExpr"] := by
  rw [methods_declarations]
  rfl

/-- The function that builds a value sets every member, in the order of the type. -/
theorem function?_builder :
    Go.function? ("new_" ++ e.structName) (a.declarations e) =
      some (builderFunc e.structName (accessorFields e)).body := by
  have hother : "X_" ++ e.structName ≠ "new_" ++ e.structName := by
    rw [ne_eq, ← String.toList_inj]
    simp
  rw [Go.function?, functions_declarations]
  simp [funcs, sharedFunc, builderFunc, hother]

/-- The method found under `Select_Expr` selects the accessor fields. -/
theorem method?_select :
    Go.method? (nativeType e.structName) "Select_Expr" (a.declarations e) =
      some (selectMethod e.structName (accessorFields e)).body := by
  rw [Go.method?, methods_declarations]
  simp [plainMethods, selectMethod]

/-- The method found under `Select_VariantExpr` selects the variants of the accessor fields. -/
theorem method?_variant :
    Go.method? (nativeType e.structName) "Select_VariantExpr" (a.declarations e) =
      some (variantMethod e.structName (accessorFields e)).body := by
  rw [Go.method?, methods_declarations]
  simp [plainMethods, selectMethod, variantMethod]

end Tablewright.Artifact.Accessors

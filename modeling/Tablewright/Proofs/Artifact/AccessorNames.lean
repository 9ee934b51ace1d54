import Tablewright.Proofs.Artifact.AccessorFile

/-! # Names of accessors

The names of the accessors of an entity are its field names after a second round of renaming, in which
the other members of the generated type are reserved.

* `nodup_names`, `notMem_nativeMembers`: accessors have names of their own.
* `columnConst_injective`: so have their constants.
* `accessors_in_step`: everything that a file declares for an entity speaks of the same accessors in the
  same order. Only the literals of the constants are not always right: `constant_of_other_name`.
* `accessor_of_escape_name`: the second round does not know the names that the options reserve, so it may
  end at one of them; `accessor_called_escape_name` is such a run. -/

namespace Tablewright.Artifact.Accessors

open Go (Expr Setting Body Member Func Decl quoted)

/-! ## Names of their own -/

/-- The names are those of the accessor fields. -/
theorem names_eq (e : Entity) : names e = (accessorFields e).map Field.goName := rfl

/-- The names are assigned in order, with the reserved names and the native members kept free. -/
theorem names_eq_assign (e : Entity) :
    names e = FieldNames.assign e.goNames (FieldNames.reserved ++ nativeMembers) e.goNames := by
  rw [names, Entity.goNames_resolveNames, FieldNames.resolved]

/-- Accessors have different names. -/
theorem nodup_names (e : Entity) : (names e).Nodup := by
  rw [names_eq_assign]
  exact FieldNames.nodup_assign _ _ _

/-- No accessor is called like another member of its type. -/
theorem notMem_nativeMembers {e : Entity} {n : String} (h : n ∈ names e) : n ∉ nativeMembers := by
  rw [names_eq_assign] at h
  have htaken := FieldNames.notMem_taken_of_mem_assign h
  rw [List.mem_append, not_or] at htaken
  exact htaken.2

/-- All members and methods of the type have different names. -/
theorem nodup_members_methods (e : Entity) :
    (["xAlias", "ALL"] ++ names e ++
      ["As", "X_Alias", "TableName", "New_Executor", "Select_Expr", "Select_VariantExpr"]).Nodup := by
  -- beside the accessors there are just the native members
  have hperm : (["xAlias", "ALL"] ++ names e ++
      ["As", "X_Alias", "TableName", "New_Executor", "Select_Expr", "Select_VariantExpr"]).Perm
        (names e ++ nativeMembers) := by
    rw [List.append_assoc]
    exact List.perm_append_comm_assoc _ _ _
  rw [hperm.nodup_iff]
  exact List.Nodup.append (nodup_names e) (by decide) fun n hn => notMem_nativeMembers hn

/-! ## Constants -/

/-- The constant of the table name has the form of one for a field. -/
theorem tableConst_eq (struct : String) : tableConst struct = columnConst struct "TableName" := by
  rw [← String.toList_inj]
  simp [tableConst, columnConst]

/-- Fields with different names have different constants. -/
theorem columnConst_injective (struct : String) : Function.Injective (columnConst struct) :=
  fun _ _ h => (String.append_right_inj _).mp h

/-- All constants have different names. -/
theorem nodup_constants (a : Accessors) (e : Entity) :
    ((Go.constants (a.declarations e)).map Prod.fst).Nodup := by
  have hnames : (Go.constants (a.declarations e)).map Prod.fst =
      ("TableName" :: names e).map (columnConst e.structName) := by
    rw [constants_declarations, List.map_cons, List.map_cons, tableConst_eq, names_eq, List.map_map,
      List.map_map]
    rfl
  rw [hnames]
  refine List.Nodup.map (columnConst_injective _) (List.nodup_cons.mpr ⟨?_, nodup_names e⟩)
  intro h
  exact notMem_nativeMembers h (by decide)

/-- The constant of a name has that name for its value exactly if the name is plain. -/
theorem value?_eq_iff {a : Accessors} {e : Entity} {const name : String}
    (h : (const, quoted name) ∈ Go.constants (a.declarations e)) :
    value? const (a.declarations e) = some (Go.utf8 name.toList) ↔ Go.Plain name := by
  rw [value?, Go.literal?_of_mem (nodup_constants a e) h]
  exact Go.literalValue?_quoted_iff name

/-- The declared constants have the table name. -/
theorem tableConst_mem_constants (a : Accessors) (e : Entity) :
    (tableConst e.structName, quoted e.name) ∈ Go.constants (a.declarations e) := by
  rw [constants_declarations]
  exact List.mem_cons_self

/-- The declared constants have the column name of every accessor field. -/
theorem columnConst_mem_constants (a : Accessors) {e : Entity} {f : Field}
    (h : f ∈ accessorFields e) :
    (columnConst e.structName f.goName, quoted f.name) ∈ Go.constants (a.declarations e) := by
  rw [constants_declarations]
  exact List.mem_cons_of_mem _ (List.mem_map_of_mem h)

/-! ## Everything in step -/

/-- The type has these accessors beside its other members, and all of its members and methods have
different names. -/
structure NamesApart (struct : String) (names : List String) (file : List Decl) : Prop where
  members : (Go.members (nativeType struct) file).map Member.name = ["xAlias", "ALL"] ++ names
  methods : (Go.methods (nativeType struct) file).map Func.name =
    ["As", "X_Alias", "TableName", "New_Executor", "Select_Expr", "Select_VariantExpr"]
  nodup : ((Go.members (nativeType struct) file).map Member.name ++
    (Go.methods (nativeType struct) file).map Func.name).Nodup

/-- The table has a constant, and so has every field, all of them with different names. -/
structure ConstantsApart (struct table : String) (fields : List Field) (file : List Decl) : Prop where
  constants : Go.constants file = (tableConst struct, quoted table) ::
    fields.map fun f => (columnConst struct f.goName, quoted f.name)
  nodup : ((Go.constants file).map Prod.fst).Nodup

/-- The type, the function that builds a value and the methods that select fields go through the same
fields in the same order. -/
structure InStep (struct : String) (fields : List Field) (file : List Decl) : Prop where
  members : (Go.members (nativeType struct) file).map (fun m => (m.name, m.type)) =
    [("xAlias", "string"), ("ALL", "rapier.Asterisk")] ++
      fields.map fun f => (f.goName, "rapier." ++ f.rapierKind.name)
  settings : ∃ settings,
    Go.function? ("new_" ++ struct) file = some (.struct (nativeType struct) settings) ∧
    settings.map (fun s => (s.member, s.value.text)) =
      [("xAlias", "xAlias"), ("ALL", "rapier.NewAsterisk(xAlias)")] ++
        fields.map fun f => (f.goName, "rapier.New" ++ f.rapierKind.name ++ "(xAlias, " ++
          columnConst struct f.goName ++ ")")
  selected : ∃ selected,
    Go.method? (nativeType struct) "Select_Expr" file = some (.slice "rapier.Expr" selected) ∧
    selected.map (Expr.root? "x") = fields.map fun f => some f.goName
  variants : ∃ condition prefixed bare,
    Go.method? (nativeType struct) "Select_VariantExpr" file =
      some (.branch condition (.slice "rapier.Expr" prefixed) (.slice "rapier.Expr" bare)) ∧
    prefixed.map (Expr.root? "x") = (fields.map fun f => some f.goName) ∧
    bare.map (Expr.root? "x") = fields.map fun f => some f.goName

/-- The members and methods of the declarations have different names. -/
theorem namesApart_declarations (a : Accessors) (e : Entity) :
    NamesApart e.structName (names e) (a.declarations e) := by
  have hmembers : (Go.members (nativeType e.structName) (a.declarations e)).map Member.name =
      ["xAlias", "ALL"] ++ names e := by
    rw [members_declarations, List.map_append, List.map_map]
    rfl
  refine ⟨hmembers, names_methods_declarations a e, ?_⟩
  rw [hmembers, names_methods_declarations]
  exact nodup_members_methods e

/-- The declared constants are those of the table and of the fields, all with different names. -/
theorem constantsApart_declarations (a : Accessors) (e : Entity) :
    ConstantsApart e.structName e.name (accessorFields e) (a.declarations e) :=
  ⟨constants_declarations a e, nodup_constants a e⟩

/-- Type, builder, constants and selections of the declarations follow the accessor fields in step. -/
theorem inStep_declarations (a : Accessors) (e : Entity) :
    InStep e.structName (accessorFields e) (a.declarations e) where
  members := by
    rw [members_declarations, List.map_append, List.map_map]
    rfl
  settings := by
    refine ⟨_, function?_builder a e, ?_⟩
    rw [List.map_append, List.map_map]
    refine congrArg₂ _ (by simp) (List.map_congr_left fun f _ => ?_)
    simp only [Function.comp_apply, fieldSetting, Prod.mk.injEq, true_and]
    rw [← String.toList_inj]
    simp
  selected := ⟨_, method?_select a e, List.map_map⟩
  variants := by
    refine ⟨_, _, _, method?_variant a e, ?_, ?_⟩
    · rw [List.map_map]
      exact List.map_congr_left fun f _ => root?_variantExpr true f
    · rw [List.map_map]
      exact List.map_congr_left fun f _ => root?_variantExpr false f

/-- **Everything that is declared for an entity speaks of the same accessors, in the same order.** The
type, its builder and the methods that select fields go through the fields of the entity; the accessors
have names of their own among the members and methods of the type; and each field has a constant of its
own, written with the name of its column. That constant stands for the name of the column exactly if the
name is plain. -/
theorem accessors_in_step {a : Accessors} {e : Entity} {text : String} (h : a.emit [e] = .ok text) :
    text = a.opening ++ Go.source (a.declarations e) ∧
    (accessorFields e).map (·.named "") = e.fields.map (·.named "") ∧
    NamesApart e.structName (names e) (a.declarations e) ∧
    ConstantsApart e.structName e.name (accessorFields e) (a.declarations e) ∧
    InStep e.structName (accessorFields e) (a.declarations e) ∧
    ∀ f ∈ accessorFields e,
      (value? (columnConst e.structName f.goName) (a.declarations e) = some (Go.utf8 f.name.toList) ↔
        Go.Plain f.name) :=
  ⟨emit_eq_source h, Entity.map_named_resolveNames e nativeMembers "", namesApart_declarations a e,
    constantsApart_declarations a e, inStep_declarations a e,
    fun _ hf => value?_eq_iff (columnConst_mem_constants a hf)⟩

/-- In the table `alias` a column `as` has the accessor `XAs`, which is no member or method of another
kind, and a constant for `as`. -/
theorem accessors_in_step_alias :
    let t : Table :=
      { (default : Table) with
        name := "alias",
        columns := ["id", "as"].map fun name =>
          { (default : Column) with name := name, rawType := "int" } }
    let e : Entity := .ofKinds .standard t [.int32, .int32]
    let a : Accessors := default
    ∃ text, a.emit [e] = .ok text ∧
      (Go.members "Alias_Native" (a.declarations e)).map Member.name =
        ["xAlias", "ALL", "Id", "XAs"] ∧
      ("xx_Alias_XAs", "\"as\"") ∈ Go.constants (a.declarations e) := by
  intro t e a
  obtain ⟨text, htext⟩ : ∃ text, a.emit [e] = .ok text := by
    rw [exists_emit_iff]
    decide +kernel
  obtain ⟨-, -, hnames, hconstants, -, -⟩ := accessors_in_step htext
  have hstruct : nativeType e.structName = "Alias_Native" := by decide +kernel
  refine ⟨text, htext, ?_, ?_⟩
  · rw [← hstruct, hnames.members]
    decide +kernel
  · rw [hconstants.constants]
    decide +kernel

/-- **A constant may stand for another name**: in the table `user` the constant of a column `new\name`
is written `"new\name"`, which stands for a name with a line feed in it. -/
theorem constant_of_other_name :
    ¬ ∀ (a : Accessors) (e : Entity) (text : String), a.emit [e] = .ok text →
      ∀ f ∈ accessorFields e,
        value? (columnConst e.structName f.goName) (a.declarations e) =
          some (Go.utf8 f.name.toList) := by
  intro hclaim
  let t : Table :=
    { (default : Table) with
      name := "user",
      columns := [{ (default : Column) with name := "new\\name", rawType := "int" }] }
  let e : Entity := .ofKinds .standard t [.int32]
  obtain ⟨text, htext⟩ : ∃ text, (default : Accessors).emit [e] = .ok text := by
    rw [exists_emit_iff]
    decide +kernel
  have hplain : ∀ f ∈ accessorFields e, Go.Plain f.name := fun f hf =>
    (value?_eq_iff (columnConst_mem_constants default hf)).mp (hclaim default e text htext f hf)
  exact absurd hplain (by decide +kernel)

/-! ## Reserved names -/

/-- The names of a built entity are different, and the options do not reserve any of them. -/
theorem goNames_of_build {m : Dialect.Mapper} {o : Options} {t : Table} {e : Entity}
    (h : Entity.build m o t = .ok e) :
    e.goNames.Nodup ∧ ∀ n ∈ e.goNames, n ∉ FieldNames.reserved ++ o.escapeName := by
  obtain ⟨kinds, -, rfl⟩ := Entity.exists_ofKinds_eq h
  rw [Entity.ofKinds, Entity.goNames_resolveNames, FieldNames.resolved]
  exact ⟨FieldNames.nodup_assign _ _ _, fun n hn => FieldNames.notMem_taken_of_mem_assign hn⟩

/-- What has a place in a list without repetitions has none in front of it. -/
theorem notMem_take_of_getElem? {l : List String} (hnodup : l.Nodup) {i : Nat} {n : String}
    (h : l[i]? = some n) : n ∉ l.take i := by
  obtain ⟨hi, rfl⟩ := List.getElem?_eq_some_iff.mp h
  rw [List.mem_take_iff_getElem]
  rintro ⟨j, hj, heq⟩
  have hij := (hnodup.getElem_inj_iff).mp heq
  omega

/-- **Only accessors that give way to another member are renamed**, if the fields have different names:
they get some `X` in front. -/
theorem renamed_of_ne {e : Entity} (hnodup : e.goNames.Nodup) {i : Nat} {old new : String}
    (hold : e.goNames[i]? = some old) (hnew : (names e)[i]? = some new) (hne : new ≠ old) :
    old ∈ nativeMembers ∧ ∃ n, new = FieldNames.escaped old (n + 1) := by
  rw [names_eq_assign] at hnew
  obtain ⟨⟨n, rfl⟩, hkept, -⟩ := FieldNames.assign_getElem? (fun _ h => h) hold hnew
  have htaken : old ∈ FieldNames.reserved ++ nativeMembers := by
    by_contra hfree
    exact hne (hkept.mpr ⟨hfree, notMem_take_of_getElem? hnodup hold⟩)
  refine ⟨?_, ?_⟩
  · rcases List.mem_append.mp htaken with hreserved | hnative
    · rw [List.mem_singleton.mp hreserved]
      decide
    · exact hnative
  · cases n with
    | zero => exact absurd (FieldNames.escaped_zero old) hne
    | succ n => exact ⟨n, rfl⟩

/-- **Accessors keep clear of the other members, but not of all reserved names.** An accessor of a built
entity is never called like another member of the type or `TableName`. It has a name that the options
reserve only if its field was called like such a member, so that it got some `X` in front. -/
theorem accessor_of_escape_name {m : Dialect.Mapper} {o : Options} {t : Table} {e : Entity}
    (hbuild : Entity.build m o t = .ok e) {a : Accessors} {text : String}
    (h : a.emit [e] = .ok text) :
    text = a.opening ++ Go.source (a.declarations e) ∧
    (Go.members (nativeType e.structName) (a.declarations e)).map Member.name =
      ["xAlias", "ALL"] ++ names e ∧
    ∀ (i : Nat) (old new : String), e.goNames[i]? = some old → (names e)[i]? = some new →
      new ∉ nativeMembers ∧ new ≠ "TableName" ∧
        (new ∈ o.escapeName → old ∈ nativeMembers ∧ ∃ n, new = FieldNames.escaped old (n + 1)) := by
  refine ⟨emit_eq_source h, (namesApart_declarations a e).members, fun i old new hold hnew => ?_⟩
  obtain ⟨hnodup, hfree⟩ := goNames_of_build hbuild
  have hnative := notMem_nativeMembers (List.mem_of_getElem? hnew)
  refine ⟨hnative, fun hname => hnative (hname ▸ by decide), fun hescape => ?_⟩
  refine renamed_of_ne hnodup hold hnew ?_
  -- the options reserve the new name, and the field was built without such a name
  rintro rfl
  exact hfree new (List.mem_of_getElem? hold) (List.mem_append_right _ hescape)

/-- The table `alias` with a column `as`, under options that reserve `XAs`. -/
theorem accessor_of_escape_name_alias :
    let t : Table :=
      { (default : Table) with
        name := "alias", columns := [{ (default : Column) with name := "as", rawType := "int" }] }
    let o : Options := { Options.standard with escapeName := ["XAs"] }
    let e : Entity := .ofKinds o t [.int32]
    Entity.build Dialect.mysql o t = .ok e ∧ (∃ text, (default : Accessors).emit [e] = .ok text) ∧
      names e = ["XAs"] ∧ "XAs" ∈ o.escapeName ∧ "As" ∈ nativeMembers ∧
      ∃ n, "XAs" = FieldNames.escaped "As" (n + 1) := by
  intro t o e
  have hbuild : Entity.build Dialect.mysql o t = .ok e := by rfl
  obtain ⟨text, htext⟩ : ∃ text, (default : Accessors).emit [e] = .ok text := by
    rw [exists_emit_iff]
    decide +kernel
  have hold : e.goNames[0]? = some "As" := by decide +kernel
  have hnew : (names e)[0]? = some "XAs" := by decide +kernel
  have hescape : "XAs" ∈ o.escapeName := List.mem_singleton_self _
  obtain ⟨hnative, hrenamed⟩ :=
    ((accessor_of_escape_name hbuild htext).2.2 0 "As" "XAs" hold hnew).2.2 hescape
  exact ⟨hbuild, ⟨text, htext⟩, by decide +kernel, hescape, hnative, hrenamed⟩

/-- **An accessor may have a name that the options reserve**: that of a column `as`, if they reserve
`XAs`. -/
theorem accessor_called_escape_name :
    ¬ ∀ (m : Dialect.Mapper) (o : Options) (t : Table) (e : Entity), Entity.build m o t = .ok e →
      ∀ (a : Accessors) (text : String), a.emit [e] = .ok text →
        ∀ n ∈ names e, n ∉ o.escapeName ∧ n ∉ nativeMembers ∧ n ≠ "TableName" := by
  intro hclaim
  let t : Table :=
    { (default : Table) with
      name := "alias", columns := [{ (default : Column) with name := "as", rawType := "int" }] }
  let o : Options := { Options.standard with escapeName := ["XAs"] }
  let e : Entity := .ofKinds o t [.int32]
  have hbuild : Entity.build Dialect.mysql o t = .ok e := by rfl
  obtain ⟨text, htext⟩ : ∃ text, (default : Accessors).emit [e] = .ok text := by
    rw [exists_emit_iff]
    decide +kernel
  have hname : "XAs" ∈ names e := by decide +kernel
  exact (hclaim _ o t e hbuild default text htext "XAs" hname).1 (List.mem_singleton_self _)

end Tablewright.Artifact.Accessors

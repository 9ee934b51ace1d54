import Tablewright.Proofs.Entity.Build

/-! # The type of a field by priority

The type rules overwrite the type, the pointer and the accessor type of a field one behind the other.
What is left in the end follows one table (`Options.typing`), which asks, the most important first, for
the marker of a soft-delete column, the wrapper of a nullable column, the plain integer that the options
want, the replacement of the column, and the type of its kind.

* `integerForm?_eq`: the kinds that become plain integers, by their width.
* `Field.typing_ofKind`: a built field is typed by the table.
* `Entity.build_typed`: so are the fields of a built entity. -/

namespace Tablewright

/-- The width of an integer kind, in bits, if it has one. -/
def ColumnKind.bits? : ColumnKind → Option Nat
  | int8 | uint8 => some 8
  | int16 | uint16 => some 16
  | int32 | uint32 => some 32
  | int64 | uint64 => some 64
  | _ => none

/-- What the type rules decide about a field. -/
structure Typing where
  goType : GoType
  goPointer : Bool
  rapierKind : RapierKind
  deriving DecidableEq

/-- How a field is typed. -/
def Field.typing (f : Field) : Typing :=
  ⟨f.goType, f.goPointer, f.rapierKind⟩

namespace Options

/-- Do the options want a plain integer in the place of a kind? -/
def WantsPlain (o : Options) (kind : ColumnKind) : Prop :=
  kind = .bool ∧ o.enableBoolInt = true ∨
    kind.bits? = some 32 ∧ (o.enableInt = true ∨ o.enableIntegerInt = true) ∨
    (kind.bits? = some 8 ∨ kind.bits? = some 16) ∧ o.enableInt = true

instance (o : Options) (kind : ColumnKind) : Decidable (o.WantsPlain kind) :=
  inferInstanceAs (Decidable (_ ∨ _))

/-- How a column is typed when no rule for absent values applies: by a plain integer, by its
replacement, or by its kind. -/
def baseTyping (o : Options) (t : Table) (c : Column) (kind : ColumnKind) : Typing :=
  if o.WantsPlain kind then
    if kind.isUnsigned then ⟨.ofIdent kind "uint" "", c.nullable, .uint⟩
    else ⟨.ofIdent kind "int" "", c.nullable, .int⟩
  else
    match o.typeOverrides.get? (t.name ++ "." ++ c.name) with
    | some replacement =>
      ⟨.ofIdent kind replacement.ident replacement.pkgPath, c.nullable, kind.toRapier⟩
    | none => ⟨.ofKind kind, c.nullable, kind.toRapier⟩

/-- How a column is typed: by the soft-delete marker, by a wrapper for absent values, or by its base. -/
def typing (o : Options) (t : Table) (c : Column) (kind : ColumnKind) : Typing :=
  let base := o.baseTyping t c kind
  if c.name = "deleted_at" ∧ kind.isInteger = true then
    ⟨.softDelete kind, false, kind.toRapier⟩
  else
    match if o.disableNullToPoint = true ∧ c.nullable = true then GoType.sqlNull? kind else none with
    | some wrapper => ⟨wrapper, false, base.rapierKind⟩
    | none => base

end Options

/-! ## Plain integers -/

/-- **The kinds that become plain integers**: those that the options want so. -/
theorem Field.integerForm?_eq (o : Options) (kind : ColumnKind) :
    integerForm? o kind =
      if o.WantsPlain kind then
        some (if kind.isUnsigned then ("uint", .uint) else ("int", .int))
      else none := by
  have hplain : o.WantsPlain kind ↔ kind = .bool ∧ o.enableBoolInt = true ∨
      kind.bits? = some 32 ∧ (o.enableInt = true ∨ o.enableIntegerInt = true) ∨
      (kind.bits? = some 8 ∨ kind.bits? = some 16) ∧ o.enableInt = true := Iff.rfl
  cases kind <;>
    simp [hplain, integerForm?, widened?, ColumnKind.bits?, ColumnKind.isUnsigned, or_comm]

namespace Options

/-- The base of a column: the plain integer, or else the type that the column comes with. -/
theorem baseTyping_eq (o : Options) (t : Table) (c : Column) (kind : ColumnKind) :
    o.baseTyping t c kind =
      ⟨((Field.integerForm? o kind).map fun i => .ofIdent kind i.1 "").getD
          (o.baseType t.name c.name kind),
        c.nullable, ((Field.integerForm? o kind).map Prod.snd).getD kind.toRapier⟩ := by
  rw [Field.integerForm?_eq, baseTyping]
  by_cases hplain : o.WantsPlain kind
  · rw [if_pos hplain, if_pos hplain]
    cases kind.isUnsigned <;> rfl
  · rw [if_neg hplain, if_neg hplain, baseType, typeOverride?]
    cases o.typeOverrides.get? (t.name ++ "." ++ c.name) <;> rfl

end Options

/-! ## Built fields -/

namespace Field

variable {o : Options} {t : Table} {c : Column} {kind : ColumnKind}

/-- A field marks deletion if it is an integer of the name `deleted_at`. -/
theorem marksDeleted_iff {f : Field} :
    f.marksDeleted = true ↔ f.name = "deleted_at" ∧ f.kind.isInteger = true := by
  rw [marksDeleted, Bool.and_eq_true, beq_iff_eq]

/-- A field made of a column marks deletion if the column has that name and an integer kind. -/
theorem marksDeleted_ofColumn :
    (ofColumn o t c kind).marksDeleted = true ↔ c.name = "deleted_at" ∧ kind.isInteger = true := by
  have hname : (ofColumn o t c kind).name = c.name := rfl
  rw [marksDeleted_iff, hname, kind_ofColumn]

/-- A nullable column gets the wrapper of its kind where pointers are disabled. -/
theorem nullWrapper?_ofColumn :
    (ofColumn o t c kind).nullWrapper? o =
      if o.disableNullToPoint = true ∧ c.nullable = true then GoType.sqlNull? kind else none := by
  have hnull : (ofColumn o t c kind).nullable = c.nullable := rfl
  rw [nullWrapper?, hnull, kind_ofColumn]
  simp only [Bool.and_eq_true]

/-- **A built field is typed by the table.** -/
theorem typing_ofKind : (ofKind o t c kind).typing = o.typing t c kind := by
  -- the tags do not show in how a field is typed
  have hretype : (ofKind o t c kind).typing = ((ofColumn o t c kind).retype o).typing := rfl
  have hkind : (ofColumn o t c kind).kind = kind := kind_ofColumn o t c kind
  have htype : (ofColumn o t c kind).goType = o.baseType t.name c.name kind := rfl
  have hpointer : (ofColumn o t c kind).goPointer = c.nullable := rfl
  have hrapier : (ofColumn o t c kind).rapierKind = kind.toRapier := rfl
  rw [hretype, retype_eq, typing, htype, hpointer, hrapier, Options.typing]
  by_cases hdeleted : c.name = "deleted_at" ∧ kind.isInteger = true
  · have hmarked := marksDeleted_ofColumn (o := o) (t := t) |>.mpr hdeleted
    rw [if_pos hdeleted]
    simp [ruledType?, ruledRapier?, dropsPointer, hmarked, hkind]
  · have hunmarked := mt (marksDeleted_ofColumn (o := o) (t := t)).mp hdeleted
    rw [if_neg hdeleted, Options.baseTyping_eq, ← nullWrapper?_ofColumn (t := t)]
    cases hwrapper : (ofColumn o t c kind).nullWrapper? o <;>
      simp [ruledType?, ruledRapier?, dropsPointer, hunmarked, hkind, hwrapper]

end Field

/-! ## Built entities -/

/-- **The fields of a built entity are typed by the table.** If the dialect knows the raw types of all
columns, there is an entity; each of its fields is typed as the table says for its column and kind,
whatever the name, the nullability, the replacement and the options are, and its Go type stands for
that kind. -/
theorem Entity.build_typed {m : Dialect.Mapper} {o : Options} {t : Table} {kinds : List ColumnKind}
    (h : t.columns.map (fun c => m.kindOf c.rawType) = kinds.map .ok) :
    ∃ e, Entity.build m o t = .ok e ∧
      e.fields.map Field.typing = List.zipWith (o.typing t) t.columns kinds ∧
      e.fields.map (fun f => f.goType.kind) = kinds := by
  have hkinds : t.kinds m = .ok kinds := Table.kinds_eq_ok_iff.mpr h
  have hlength : kinds.length = t.columns.length := Table.length_kinds hkinds
  refine ⟨Entity.ofKinds o t kinds, ?_, ?_, Entity.kinds_ofKinds hlength⟩
  · rw [Entity.build_eq, hkinds]
    rfl
  · -- new names for the fields do not change how they are typed
    rw [Entity.ofKinds, Entity.map_resolveNames fun f name => rfl, Entity.ofFields, List.map_zipWith]
    simp only [Field.typing_ofKind]

/-- Under options that want plain integers and no pointers: a soft-delete column, a small integer that
has no wrapper, one that has, a replaced column, a replaced column that becomes a plain integer, and two
columns with the default types of their kinds, the second of which keeps its pointer as that has no
wrapper. -/
theorem Entity.build_typed_user :
    let t : Table :=
      { (default : Table) with
        name := "user",
        columns := [("deleted_at", "bigint"), ("level", "tinyint"), ("rank", "tinyint unsigned"),
            ("mail", "json"), ("age", "int"), ("born", "datetime"), ("total", "decimal(8,2)")].map fun c =>
          { (default : Column) with
            name := c.1, rawType := c.2, nullable := c.1 != "age" && c.1 != "born" } }
    let o : Options :=
      { Options.standard with
        enableInt := true
        disableNullToPoint := true
        typeOverrides :=
          .ofList [("user.mail", ⟨"*mail.Box", "app/mail"⟩), ("user.age", ⟨"mail.Age", "app/mail"⟩)] }
    let kinds : List ColumnKind := [.int64, .int8, .uint8, .json, .int32, .time, .decimal]
    t.columns.map (fun c => Dialect.mysql.kindOf c.rawType) = kinds.map .ok ∧
      ∃ e, Entity.build Dialect.mysql o t = .ok e ∧
        e.fields.map (fun f => (f.goType.ident, f.goPointer, f.rapierKind)) =
          [("soft_delete.DeletedAt", false, .int64), ("int", true, .int), ("sql.NullByte", false, .uint),
            ("*mail.Box", true, .field), ("int", false, .int), ("time.Time", false, .time),
            ("string", true, .decimal)] ∧
        e.fields.map (fun f => f.goType.kind) = kinds := by
  intro t o kinds
  have hkinds : t.columns.map (fun c => Dialect.mysql.kindOf c.rawType) = kinds.map .ok := by
    decide +kernel
  obtain ⟨e, hbuild, htyping, hkind⟩ := build_typed (o := o) hkinds
  have hshown := congrArg (List.map fun x : Typing => (x.goType.ident, x.goPointer, x.rapierKind)) htyping
  rw [List.map_map] at hshown
  refine ⟨hkinds, e, hbuild, hshown.trans ?_, hkind⟩
  decide +kernel

end Tablewright

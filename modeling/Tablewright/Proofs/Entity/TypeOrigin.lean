import Tablewright.Proofs.Entity.RuledTypes
import Tablewright.Proofs.Entity.Runs

/-! # Where the type of a field comes from

A field starts with the type of its kind or with a replacement, and each time options are applied, a rule
may put another type in its place. `Field.originAfter` follows where the type has come from in the end, and
`TypeOrigin.Gives` says which types come from there. A type is never wrapped in a pointer if its values can
be absent already. That it can be seen from where a type comes from: it is spelled so, or it is the marker,
a wrapper, or the type that JSON has by its kind.

* `TypeOrigin.Gives.nilable_iff`: the nilable types, by where they come from.
* `Field.ComesFrom.transform`, `Field.ComesFrom.transformAll`: what one step and a whole run keep.
* `Entity.star_iff_of_build`: when the type of a built field is written with a star. -/

namespace Tablewright

/-! ## Origins -/

/-- What can give a field its type. -/
inductive TypeOrigin where
  /-- The kind of the column. -/
  | kind
  /-- A replacement for the column. -/
  | replacement
  /-- The rule for soft-delete columns. -/
  | marker
  /-- The rules that want plain integers. -/
  | plain
  /-- The rule for absent values. -/
  | wrapper
  deriving DecidableEq

/-- The types that a column of some kind gets from there. -/
inductive TypeOrigin.Gives (kind : ColumnKind) : TypeOrigin → GoType → Prop
  | kind : Gives kind .kind (.ofKind kind)
  | replacement (r : GoTypeOverride) : Gives kind .replacement (r.toGoType kind)
  | marker : Gives kind .marker (.softDelete kind)
  | plain (ident : String) (h : ident = "int" ∨ ident = "uint") :
      Gives kind .plain (.ofIdent kind ident "")
  | wrapper {type : GoType} (h : GoType.sqlNull? kind = some type) : Gives kind .wrapper type

/-- The type that a kind has by itself is nilable if it is spelled so, and that of JSON is. -/
theorem GoType.nilable_ofKind (kind : ColumnKind) :
    (ofKind kind).nilable = true ↔ spelledNilable (ofKind kind).ident = true ∨ kind = .json := by
  cases kind with
  | json => exact iff_of_true rfl (.inr rfl)
  | _ => simp [ofKind, ofIdent]

/-- **The types that are nilable** are those that are spelled so, the marker, the wrappers, and the type
that JSON has by its kind. -/
theorem TypeOrigin.Gives.nilable_iff {kind : ColumnKind} {origin : TypeOrigin} {type : GoType}
    (h : origin.Gives kind type) :
    type.nilable = true ↔ GoType.spelledNilable type.ident = true ∨ origin = .marker ∨
      origin = .wrapper ∨ origin = .kind ∧ kind = .json := by
  cases h with
  | kind => simp [GoType.nilable_ofKind]
  | replacement r => simp [GoTypeOverride.toGoType, GoType.ofIdent]
  | marker => simp [GoType.softDelete]
  | plain ident h => simp [GoType.ofIdent]
  | wrapper h =>
      obtain ⟨ident, -, rfl⟩ := Option.map_eq_some_iff.mp h
      simp

/-- Where the type of a column comes from before any rule. -/
def Options.origin (o : Options) (table column : String) : TypeOrigin :=
  if (o.typeOverride? table column).isSome then .replacement else .kind

/-- The base type is given by the origin that the options name for the column. -/
theorem Options.gives_baseType (o : Options) (table column : String) (kind : ColumnKind) :
    (o.origin table column).Gives kind (o.baseType table column kind) := by
  rw [Options.origin, Options.baseType]
  cases o.typeOverride? table column with
  | none => exact .kind
  | some r => exact .replacement r

namespace Field

/-- The rule that puts a type in under some options, if one does: the marker goes before the wrapper, and
this before a plain integer. -/
def ruleOrigin? (o : Options) (f : Field) : Option TypeOrigin :=
  if f.name = "deleted_at" ∧ f.kind.isInteger = true then some .marker
  else if o.disableNullToPoint = true ∧ f.nullable = true ∧ (GoType.sqlNull? f.kind).isSome = true then
    some .wrapper
  else if o.WantsPlain f.kind then some .plain
  else none

/-- Where the type of a field comes from after options that are applied one after the other. -/
def originAfter (f : Field) (start : TypeOrigin) (os : List Options) : TypeOrigin :=
  os.foldl (fun origin o => (f.ruleOrigin? o).getD origin) start

/-- What the rules put in comes from the rule that puts it in. -/
theorem gives_ruledType? (o : Options) (f : Field) :
    Option.Rel (fun origin type => origin.Gives f.kind type) (f.ruleOrigin? o) (f.ruledType? o) := by
  rw [ruleOrigin?, ruledType?]
  simp only [← marksDeleted_iff, ← isSome_nullWrapper?_iff]
  -- the rules in the order of their priority
  by_cases hmark : f.marksDeleted = true
  · rw [if_pos hmark, if_pos hmark]
    exact .some .marker
  rw [if_neg hmark, if_neg hmark]
  cases hwrapper : f.nullWrapper? o with
  | some wrapper =>
      have hkind : GoType.sqlNull? f.kind = some wrapper := by
        rw [nullWrapper?] at hwrapper
        split at hwrapper
        · exact hwrapper
        · contradiction
      exact .some (.wrapper hkind)
  | none =>
      rw [Option.none_or, integerForm?_eq]
      by_cases hplain : o.WantsPlain f.kind
      · rw [if_pos hplain, if_pos hplain]
        refine .some (.plain _ ?_)
        cases f.kind.isUnsigned with
        | false => exact .inl rfl
        | true => exact .inr rfl
      · rw [if_neg hplain, if_neg hplain]
        exact .none

/-- The pointer is taken by the marker and by the wrappers. -/
theorem dropsPointer_iff {o : Options} {f : Field} :
    f.dropsPointer o = true ↔ f.ruleOrigin? o = some .marker ∨ f.ruleOrigin? o = some .wrapper := by
  rw [dropsPointer, Bool.or_eq_true, ruleOrigin?]
  simp only [← marksDeleted_iff, ← isSome_nullWrapper?_iff]
  by_cases hmark : f.marksDeleted = true
  · simp [hmark]
  · rw [if_neg hmark]
    by_cases hwrapper : (f.nullWrapper? o).isSome = true
    · simp [hwrapper]
    · rw [if_neg hwrapper]
      split <;> simp [hmark, hwrapper]

/-- Fields of one name, one nullability and one kind are under the same rules. -/
theorem ruleOrigin?_congr (o : Options) {f g : Field} (hname : f.name = g.name)
    (hnull : f.nullable = g.nullable) (hkind : f.kind = g.kind) :
    f.ruleOrigin? o = g.ruleOrigin? o := by
  rw [ruleOrigin?, ruleOrigin?, hname, hnull, hkind]

/-- Options that were applied before do not decide which rule sets the type. -/
theorem ruleOrigin?_transform (o o' : Options) (f : Field) :
    (f.transform o').ruleOrigin? o = f.ruleOrigin? o :=
  ruleOrigin?_congr o (name_transform o' f) (nullable_transform o' f) (kind_transform o' f)

/-- The name in the code does not decide which rule sets the type. -/
@[simp] theorem ruleOrigin?_named (o : Options) (f : Field) (goName : String) :
    (f.named goName).ruleOrigin? o = f.ruleOrigin? o := rfl

/-! ## Runs -/

@[simp] theorem originAfter_nil (f : Field) (start : TypeOrigin) : f.originAfter start [] = start := rfl

/-- Each of the options sets the origin anew or leaves it. -/
@[simp] theorem originAfter_cons (f : Field) (start : TypeOrigin) (o : Options) (os : List Options) :
    f.originAfter start (o :: os) = f.originAfter ((f.ruleOrigin? o).getD start) os := rfl

/-- Where the type comes from is decided by what no options change. -/
theorem originAfter_transform (o : Options) (f : Field) (start : TypeOrigin) (os : List Options) :
    (f.transform o).originAfter start os = f.originAfter start os := by
  rw [originAfter, originAfter]
  simp only [ruleOrigin?_transform]

/-- The type of a field comes from there. If that is the marker or a wrapper, the field has lost its
pointer, and if it has one its column is nullable. -/
structure ComesFrom (f : Field) (origin : TypeOrigin) : Prop where
  gives : origin.Gives f.kind f.goType
  ruled : origin = .marker ∨ origin = .wrapper → f.goPointer = false
  nullable : f.goPointer = true → f.nullable = true

/-- The field of a column starts with what the column comes with. -/
theorem comesFrom_ofColumn (o : Options) (t : Table) (c : Column) (kind : ColumnKind) :
    (ofColumn o t c kind).ComesFrom (o.origin t.name c.name) where
  gives := by
    rw [kind_ofColumn]
    exact o.gives_baseType t.name c.name kind
  ruled h := by
    rw [Options.origin] at h
    split at h <;> simp at h
  nullable := id

/-- **One step of a run**: the type comes from the rule that puts it in, or from where it came before. -/
theorem ComesFrom.transform {f : Field} {origin : TypeOrigin} (h : f.ComesFrom origin) (o : Options) :
    (f.transform o).ComesFrom ((f.ruleOrigin? o).getD origin) where
  gives := by
    have hruled := gives_ruledType? o f
    rw [goType_transform, kind_transform]
    generalize f.ruleOrigin? o = rule, f.ruledType? o = type at hruled ⊢
    cases hruled with
    | some hgives => exact hgives
    | none => exact h.gives
  ruled hruled := by
    rw [goPointer_transform, Bool.and_eq_false_iff, Bool.not_eq_false', dropsPointer_iff]
    cases hrule : f.ruleOrigin? o with
    | some rule =>
        rw [hrule, Option.getD_some] at hruled
        exact .inr (hruled.imp (congrArg some) (congrArg some))
    | none =>
        -- without a rule the type comes from where it came before, and that has taken the pointer
        rw [hrule, Option.getD_none] at hruled
        exact .inl (h.ruled hruled)
  nullable hpointer := by
    rw [nullable_transform]
    exact h.nullable (goPointer_of_transform hpointer)

/-- The name of the field does not show in where its type comes from. -/
theorem ComesFrom.named {f : Field} {origin : TypeOrigin} (h : f.ComesFrom origin) (goName : String) :
    (f.named goName).ComesFrom origin :=
  ⟨h.gives, h.ruled, h.nullable⟩

/-- **What a whole run keeps**: the type comes from the last rule that has put one in. -/
theorem ComesFrom.transformAll {f : Field} {origin : TypeOrigin} (h : f.ComesFrom origin)
    (os : List Options) : (f.transformAll os).ComesFrom (f.originAfter origin os) := by
  induction os generalizing f origin with
  | nil => exact h
  | cons o os ih =>
      have hrest := ih (h.transform o)
      rw [originAfter_transform] at hrest
      exact hrest

/-- A pointer is left after a run if no step has put the marker or a wrapper in. -/
theorem goPointer_transformAll (f : Field) (os : List Options) :
    (f.transformAll os).goPointer = true ↔ f.goPointer = true ∧
      ∀ o ∈ os, f.ruleOrigin? o ≠ some .marker ∧ f.ruleOrigin? o ≠ some .wrapper := by
  induction os generalizing f with
  | nil => simp
  | cons o os ih =>
      have hstep : (f.transform o).goPointer = true ↔ f.goPointer = true ∧
          f.ruleOrigin? o ≠ some .marker ∧ f.ruleOrigin? o ≠ some .wrapper := by
        rw [goPointer_transform, Bool.and_eq_true, Bool.not_eq_true', ← Bool.not_eq_true,
          dropsPointer_iff, not_or]
      have hrest := ih (f.transform o)
      simp only [ruleOrigin?_transform] at hrest
      rw [List.forall_mem_cons, ← and_assoc, ← hstep]
      exact hrest

/-! ## Stars -/

/-- The spellings that types start with whose values can be absent: those of pointers, slices and maps. -/
def nilableFronts : List String :=
  ["*", "[]", "map["]

/-- A type is nilable by its spelling if it begins with one of the nilable fronts. -/
theorem spelledNilable_iff {ident : String} :
    GoType.spelledNilable ident = true ↔ ∃ front ∈ nilableFronts, front.toList <+: ident.toList := by
  simp only [GoType.spelledNilable, nilableFronts, Bool.or_eq_true, List.isPrefixOf_iff_prefix,
    List.mem_cons, List.not_mem_nil, or_false, exists_eq_or_imp, exists_eq_left]
  tauto

/-- The type stands behind a star if the field has a pointer and the type is not nilable, and else as it
is. -/
theorem goTypeIdent_eq_star_iff {f : Field} :
    f.goTypeIdent = "*" ++ f.goType.ident ↔ f.goPointer = true ∧ f.goType.nilable = false := by
  have hlonger : f.goType.ident ≠ "*" ++ f.goType.ident := by
    intro h
    have hlength := congrArg String.length h
    rw [String.length_append] at hlength
    have hstar : "*".length = 1 := rfl
    omega
  rw [goTypeIdent]
  cases f.goPointer <;> cases f.goType.nilable <;> simp [hlonger]

end Field

/-! ## Built fields -/

namespace Entity

variable {m : Dialect.Mapper} {o : Options} {t : Table} {e : Entity} (h : Entity.build m o t = .ok e)
  {f : Field} (hf : f ∈ e.fields)
include h hf

/-- The type of a built field comes from the rule that puts one in, or from its column. -/
theorem comesFrom_of_build : f.ComesFrom (f.originAfter (o.origin e.name f.name) [o]) := by
  obtain ⟨c, kind, goName, rfl⟩ := exists_ofKind_of_mem h hf
  have hname : ((Field.ofKind o t c kind).named goName).name = c.name := Field.name_transform o _
  rw [Field.originAfter_cons, Field.originAfter_nil, Field.ruleOrigin?_named, hname, name_of_build h,
    Field.ofKind, Field.ruleOrigin?_transform]
  exact ((Field.comesFrom_ofColumn o t c kind).transform o).named goName

/-- A built field has a pointer if its column is nullable and no rule has taken it. -/
theorem goPointer_of_build : f.goPointer = true ↔ f.nullable = true ∧
    f.ruleOrigin? o ≠ some .marker ∧ f.ruleOrigin? o ≠ some .wrapper := by
  obtain ⟨c, kind, goName, rfl⟩ := exists_ofKind_of_mem h hf
  have hnull : ((Field.ofKind o t c kind).named goName).nullable = c.nullable :=
    Field.nullable_transform o _
  have hstart := Field.goPointer_transformAll (Field.ofColumn o t c kind) [o]
  rw [List.forall_mem_singleton] at hstart
  rw [hnull, Field.ruleOrigin?_named, Field.ofKind, Field.ruleOrigin?_transform]
  exact hstart

/-- **When a type is written with a star.** Take a field of an entity that is built under any options, with
any replacements, and apply any further options to it. Its type then comes from the last rule that has put
one in, or else from the replacement or the kind of its column. It stands behind a star exactly if the column
is nullable, no rule has ever put in the marker or a wrapper, the type is not spelled like a pointer, a slice
or a map, and it is not the type that JSON has by its kind. So a type whose values can be absent already
never gets a star, be it from a rule or from the column. -/
theorem star_iff_of_build (os : List Options) :
    let g := f.transformAll os
    let origin := f.originAfter (o.origin e.name f.name) (o :: os)
    origin.Gives f.kind g.goType ∧
    (g.goTypeIdent = "*" ++ g.goType.ident ∨ g.goTypeIdent = g.goType.ident) ∧
    (g.goTypeIdent = "*" ++ g.goType.ident ↔ f.nullable = true ∧
      (∀ o' ∈ o :: os, f.ruleOrigin? o' ≠ some .marker ∧ f.ruleOrigin? o' ≠ some .wrapper) ∧
      (∀ front ∈ Field.nilableFronts, ¬front.toList <+: g.goType.ident.toList) ∧
      ¬(origin = .kind ∧ f.kind = .json)) ∧
    (g.goTypeIdent = "*" ++ g.goType.ident → origin ≠ .marker ∧ origin ≠ .wrapper) := by
  intro g origin
  have hfrom : g.ComesFrom origin := (comesFrom_of_build h hf).transformAll os
  have hkind : g.kind = f.kind := (Field.succeeds_transformAll os f).kind_eq
  have hpointer : g.goPointer = true ↔ f.nullable = true ∧
      ∀ o' ∈ o :: os, f.ruleOrigin? o' ≠ some .marker ∧ f.ruleOrigin? o' ≠ some .wrapper := by
    rw [Field.goPointer_transformAll, goPointer_of_build h hf, and_assoc, List.forall_mem_cons]
  have hruled : g.goPointer = true → origin ≠ .marker ∧ origin ≠ .wrapper := by
    intro htrue
    rw [← not_or]
    intro hrule
    rw [hfrom.ruled hrule] at htrue
    contradiction
  have hnilable := hfrom.gives.nilable_iff
  rw [Field.spelledNilable_iff, hkind] at hnilable
  refine ⟨hkind ▸ hfrom.gives, ?_, ?_, ?_⟩
  · rw [Field.goTypeIdent]
    split
    · exact .inl rfl
    · exact .inr rfl
  · rw [Field.goTypeIdent_eq_star_iff, ← Bool.not_eq_true, hnilable, ← and_assoc (a := f.nullable = true),
      ← hpointer]
    -- with a pointer left, the type is neither the marker nor a wrapper
    refine and_congr_right fun htrue => ?_
    obtain ⟨hmarker, hwrapper⟩ := hruled htrue
    simp [hmarker, hwrapper]
  · intro hstar
    exact hruled (Field.goTypeIdent_eq_star_iff.mp hstar).1

end Entity

/-- Of a widened number, a JSON document and a replaced column, all nullable, the number alone has a star. -/
theorem Entity.star_iff_of_build_user :
    let t : Table :=
      { (default : Table) with
        name := "user",
        columns := [("age", "int"), ("data", "json"), ("box", "varchar(64)")].map fun c =>
          { (default : Column) with name := c.1, rawType := c.2, nullable := true } }
    let o : Options :=
      { Options.standard with
        typeOverrides := .ofList [("user.box", ⟨"map[string]mail.Box", "app/mail"⟩)] }
    let later : Options := { o with enableInt := true }
    let e : Entity := .ofKinds o t [.int32, .json, .string]
    Entity.build Dialect.mysql o t = .ok e ∧
      e.fields.map (fun f => (f.transformAll [later]).goTypeIdent) =
        ["*int", "json.RawMessage", "map[string]mail.Box"] ∧
      ∀ f ∈ e.fields, (f.transformAll [later]).goTypeIdent =
        "*" ++ (f.transformAll [later]).goType.ident ↔ f.name = "age" := by
  intro t o later e
  have hbuild : Entity.build Dialect.mysql o t = .ok e := by rfl
  have hrest : ∀ f ∈ e.fields, (f.nullable = true ∧
      (∀ o' ∈ [o, later], f.ruleOrigin? o' ≠ some .marker ∧ f.ruleOrigin? o' ≠ some .wrapper) ∧
      (∀ front ∈ Field.nilableFronts, ¬front.toList <+: (f.transformAll [later]).goType.ident.toList) ∧
      ¬(f.originAfter (o.origin e.name f.name) [o, later] = .kind ∧ f.kind = .json)) ↔
      f.name = "age" := by
    decide +kernel
  refine ⟨hbuild, by decide +kernel, fun f hf => ?_⟩
  obtain ⟨-, -, hstar, -⟩ := Entity.star_iff_of_build hbuild hf [later]
  exact hstar.trans (hrest f hf)

end Tablewright

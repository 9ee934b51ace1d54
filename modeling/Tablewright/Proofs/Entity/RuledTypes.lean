import Tablewright.Proofs.Entity.TypePriority

/-! # The types that rules put in

A rule puts the soft-delete marker, a plain integer or a wrapper in the place of a type (`GoType.ruled`).
Together with the types of the kinds these are all types that a column can have unless it is replaced
(`GoType.standard`). A replacement from a package can be told from them, so it can be seen in the end
whether a rule has overruled it (`Options.Overrules`).

* `Field.ruledType?_eq_none_iff`: when no rule puts anything in.
* `Field.mem_standard_ofKind`: without replacements every built field has one of the standard types.
* `Field.goType_eq_replacement_iff`: a replaced column keeps its replacement unless a rule overrules it. -/

namespace Tablewright

/-! ## The types -/

/-- Every kind is listed. -/
theorem ColumnKind.mem_all (kind : ColumnKind) : kind ∈ all := by
  cases kind <;> decide

namespace GoType

/-- The types that rules put in the place of another type of this kind. -/
def ruled (kind : ColumnKind) : List GoType :=
  [softDelete kind, ofIdent kind "int" "", ofIdent kind "uint" ""] ++ (sqlNull? kind).toList

/-- The types that columns have, by their kinds and by the rules, if they are not replaced. -/
def standard : List GoType :=
  ColumnKind.all.flatMap fun kind => ofKind kind :: ruled kind

/-- The wrapper of a kind is the last of the types that rules put in, if there is one. -/
theorem mem_ruled {t : GoType} {kind : ColumnKind} :
    t ∈ ruled kind ↔ t = softDelete kind ∨ t = ofIdent kind "int" "" ∨ t = ofIdent kind "uint" "" ∨
      ∃ ident, sqlNullIdent? kind = some ident ∧
        { ofIdent kind ident sqlPackage with nilable := true } = t := by
  simp [ruled, sqlNull?]

/-- The marker and the wrappers are not spelled like types that are nilable. -/
theorem spelledNilable_ruled : spelledNilable "soft_delete.DeletedAt" = false ∧
    ∀ kind ∈ ColumnKind.all, ∀ ident ∈ sqlNullIdent? kind, spelledNilable ident = false := by
  decide +kernel

/-- What a rule puts in has no package, or is marked as nilable against its spelling. -/
theorem nilable_of_mem_ruled {t : GoType} {kind : ColumnKind} (h : t ∈ ruled kind) :
    t.pkgPath = "" ∨ t.nilable ≠ spelledNilable t.ident := by
  obtain ⟨hmarker, hwrapper⟩ := spelledNilable_ruled
  rcases mem_ruled.mp h with rfl | rfl | rfl | ⟨ident, hident, rfl⟩
  · exact .inr fun hspelled => Bool.noConfusion (hspelled.trans hmarker)
  · exact .inl rfl
  · exact .inl rfl
  · exact .inr fun hspelled =>
      Bool.noConfusion (hspelled.trans (hwrapper kind kind.mem_all ident hident))

end GoType

/-- So a replacement that comes from a package is never what a rule puts in. -/
theorem GoTypeOverride.toGoType_notMem_ruled {r : GoTypeOverride} (hpath : r.pkgPath ≠ "")
    (kind kind' : ColumnKind) : r.toGoType kind ∉ GoType.ruled kind' := by
  intro hmem
  rcases GoType.nilable_of_mem_ruled hmem with hnone | hnilable
  · exact hpath hnone
  · exact hnilable rfl

/-! ## The types of built fields -/

/-- A rule puts another type in the place of the one that the field came with: the soft-delete marker, a
plain integer, or a wrapper. -/
def Options.Overrules (o : Options) (f : Field) : Prop :=
  f.name = "deleted_at" ∧ f.kind.isInteger = true ∨ o.WantsPlain f.kind ∨
    o.disableNullToPoint = true ∧ f.nullable = true ∧ (GoType.sqlNull? f.kind).isSome = true

instance (o : Options) (f : Field) : Decidable (o.Overrules f) :=
  inferInstanceAs (Decidable (_ ∨ _))

namespace Field

variable {o : Options}

/-- There is a wrapper for a nullable field whose kind has one, if the options want it. -/
theorem isSome_nullWrapper?_iff {f : Field} :
    (f.nullWrapper? o).isSome = true ↔ o.disableNullToPoint = true ∧ f.nullable = true ∧
      (GoType.sqlNull? f.kind).isSome = true := by
  rw [nullWrapper?]
  cases o.disableNullToPoint <;> cases f.nullable <;> simp

/-- No rule sets the type exactly if the options do not overrule the field. -/
theorem ruledType?_eq_none_iff {f : Field} : f.ruledType? o = none ↔ ¬o.Overrules f := by
  have hwrapper : f.nullWrapper? o = none ↔ ¬(o.disableNullToPoint = true ∧ f.nullable = true ∧
      (GoType.sqlNull? f.kind).isSome = true) := by
    rw [← isSome_nullWrapper?_iff, Option.not_isSome_iff_eq_none]
  have hplain : integerForm? o f.kind = none ↔ ¬o.WantsPlain f.kind := by
    rw [integerForm?_eq]
    split <;> simp [*]
  rw [Options.Overrules, ruledType?, ← marksDeleted_iff]
  by_cases hmark : f.marksDeleted = true
  · simp [hmark]
  · rw [if_neg hmark, Option.or_eq_none_iff, Option.map_eq_none_iff, hwrapper, hplain, not_or, not_or]
    exact ⟨fun h => ⟨hmark, h.2, h.1⟩, fun h => ⟨h.2.2, h.2.1⟩⟩

/-- What the rules put in is one of the types of the rules. -/
theorem mem_ruled_of_ruledType? {f : Field} {t : GoType} (h : f.ruledType? o = some t) :
    t ∈ GoType.ruled f.kind := by
  rw [ruledType?] at h
  split at h
  · obtain rfl := Option.some.inj h
    exact List.mem_append_left _ List.mem_cons_self
  · rcases Option.or_eq_some_iff.mp h with hwrapper | ⟨-, hint⟩
    · rw [nullWrapper?] at hwrapper
      split at hwrapper
      · exact List.mem_append_right _ (Option.mem_toList.mpr hwrapper)
      · contradiction
    · obtain ⟨i, hform, rfl⟩ := Option.map_eq_some_iff.mp hint
      rw [integerForm?_eq] at hform
      split at hform
      · obtain rfl := Option.some.inj hform
        cases f.kind.isUnsigned <;> simp [GoType.ruled]
      · contradiction

variable {t : Table} {c : Column} {kind : ColumnKind}

/-- The type of a built field is what the rules put in, or else the type that its column came with. -/
theorem goType_ofKind (o : Options) (t : Table) (c : Column) (kind : ColumnKind) :
    (ofKind o t c kind).goType =
      ((ofKind o t c kind).ruledType? o).getD (o.baseType t.name c.name kind) := by
  have hruled := (rules_retype o o (ofColumn o t c kind)).1
  have hrules : (ofKind o t c kind).ruledType? o = ((ofColumn o t c kind).retype o).ruledType? o :=
    (rules_congr o rfl rfl rfl).1
  rw [hrules, hruled]
  show ((ofColumn o t c kind).retype o).goType = _
  rw [retype_eq]
  rfl

/-- **Without replacements every built field has one of the standard types.** -/
theorem mem_standard_ofKind (h : o.typeOverrides = .empty) :
    (ofKind o t c kind).goType ∈ GoType.standard := by
  have hbase : o.baseType t.name c.name kind = .ofKind kind := by
    rw [Options.baseType, Options.typeOverride?, h]
    rfl
  refine List.mem_flatMap.mpr ⟨kind, kind.mem_all, ?_⟩
  rw [goType_ofKind, hbase]
  cases hruled : (ofKind o t c kind).ruledType? o with
  | none => exact List.mem_cons_self
  | some type =>
      have hmem := mem_ruled_of_ruledType? hruled
      rw [kind_ofKind] at hmem
      exact List.mem_cons_of_mem _ hmem

/-- **A replaced column keeps its replacement unless a rule overrules it.** -/
theorem goType_eq_replacement_iff {r : GoTypeOverride} (h : o.typeOverride? t.name c.name = some r)
    (hpath : r.pkgPath ≠ "") :
    (ofKind o t c kind).goType = r.toGoType kind ↔ ¬o.Overrules (ofKind o t c kind) := by
  have hbase : o.baseType t.name c.name kind = r.toGoType kind := by
    rw [Options.baseType, h]
  rw [← ruledType?_eq_none_iff, goType_ofKind, hbase]
  cases hruled : (ofKind o t c kind).ruledType? o with
  | none => exact iff_of_true rfl rfl
  | some type =>
      refine iff_of_false ?_ (Option.some_ne_none type)
      rintro rfl
      exact r.toGoType_notMem_ruled hpath kind _ (mem_ruled_of_ruledType? hruled)

end Field

/-- A field of a built entity is, under a name of its own, the field of a column. -/
theorem Entity.exists_ofKind_of_mem {m : Dialect.Mapper} {o : Options} {t : Table} {e : Entity}
    (h : Entity.build m o t = .ok e) {f : Field} (hf : f ∈ e.fields) :
    ∃ c kind goName, f = (Field.ofKind o t c kind).named goName := by
  obtain ⟨kinds, -, rfl⟩ := exists_ofKinds_eq h
  have hmem : f.named "" ∈ (ofKinds o t kinds).fields.map (·.named "") := List.mem_map_of_mem hf
  rw [ofKinds, map_named_resolveNames, ofFields, List.map_zipWith,
    ← List.map_uncurry_zip_eq_zipWith] at hmem
  obtain ⟨⟨c, kind⟩, -, hname⟩ := List.mem_map.mp hmem
  refine ⟨c, kind, f.goName, ?_⟩
  exact (congrArg (·.named f.goName) hname).symm

end Tablewright

import Tablewright.Proofs.Artifact.Merging
import Tablewright.Proofs.Entity.RuledTypes

/-! # What a file of models imports

Go refuses a package that is used without an import, and one that is imported without a use. A file of
models imports the packages that the types of its fields come from, but what it shows are the spellings of
these types. Both go together in all types that a column can have unless it is replaced
(`GoType.standard`): such a type is spelled with the last part of the path of its package, or without a
dot if it has no package.

* `GoType.spelled_of_mem_standard`: the spelling and the package of a standard type.
* `GoModel.mem_imports_iff_qualifier`: what is imported is what is used.
* `GoModel.imports_exact`: the same of whole files, and what is imported for replacements. -/

namespace Tablewright

/-! ## The spelling of qualified types -/

namespace Go

/-- The package that a type is qualified by, if it is: what stands in front of the first dot, without the
star of a pointer. -/
def qualifier? (type : String) : Option String :=
  let bare := if type.toList.head? = some '*' then type.toList.tail else type.toList
  if '.' ∈ bare then some (String.ofList (bare.takeWhile (· != '.'))) else none

/-- The last part of an import path. -/
def lastSegment (path : String) : String :=
  String.ofList ((Text.pieces (· == '/') path.toList).getLastD [])

end Go

namespace GoType

/-- The packages that the standard types come from. -/
def packages : List String :=
  ["time", "encoding/json", softDeletePackage, sqlPackage]

/-- How a type that is no pointer is spelled with its package: qualified by the last part of the path, or
without a dot if it has no package. -/
def Spelled (ident pkgPath : String) : Prop :=
  ident.toList.head? ≠ some '*' ∧
    (pkgPath = "" ∧ Go.qualifier? ident = none ∨
      pkgPath ∈ packages ∧ Go.qualifier? ident = some (Go.lastSegment pkgPath))

instance (ident pkgPath : String) : Decidable (Spelled ident pkgPath) :=
  inferInstanceAs (Decidable (_ ∧ _))

/-- Every type the options can choose by themselves is spelled with the package it is imported from. -/
theorem spelled_parts :
    (∀ kind ∈ ColumnKind.all, Spelled (ofKind kind).ident (ofKind kind).pkgPath ∧
      ∀ ident ∈ sqlNullIdent? kind, Spelled ident sqlPackage) ∧
    Spelled "soft_delete.DeletedAt" softDeletePackage ∧ Spelled "int" "" ∧ Spelled "uint" "" := by
  decide +kernel

/-- **Each standard type is spelled with its package.** -/
theorem spelled_of_mem_standard {t : GoType} (h : t ∈ standard) : Spelled t.ident t.pkgPath := by
  obtain ⟨kind, hkind, h⟩ := List.mem_flatMap.mp h
  obtain ⟨hkinds, hmarker, hint, huint⟩ := spelled_parts
  obtain ⟨hplain, hwrapper⟩ := hkinds kind hkind
  rcases List.mem_cons.mp h with rfl | hruled
  · exact hplain
  rcases mem_ruled.mp hruled with rfl | rfl | rfl | ⟨ident, hident, rfl⟩
  · exact hmarker
  · exact hint
  · exact huint
  · exact hwrapper ident hident

/-- The packages can be told apart by the last parts of their paths. -/
theorem lastSegment_injOn_packages : ∀ p ∈ packages, ∀ p' ∈ packages,
    Go.lastSegment p = Go.lastSegment p' → p = p' := by
  have hlast : packages.map Go.lastSegment = ["time", "json", "soft_delete", "sql"] := by
    simp [packages, Go.lastSegment, Text.pieces, softDeletePackage, sqlPackage]
  have hnodup : (packages.map Go.lastSegment).Nodup := by
    rw [hlast]
    decide
  exact List.inj_on_of_nodup_map hnodup

/-- The empty path is never imported. -/
theorem empty_notMem_packages : "" ∉ packages := by
  decide

end GoType

namespace Artifact

/-! ## Imports -/

/-- The field belongs to the column with this key and still has the type that replaces the column's. -/
def Carries (e : Entity) (f : Field) (key : String) (r : GoTypeOverride) : Prop :=
  e.name ++ "." ++ f.name = key ∧ f.goType = r.toGoType f.kind

namespace GoModel

variable {g : GoModel} {o : Options} {es : List Entity} {text : String}

/-- A file is its header, its package line, a block with one line for each import, unless there is none,
and the bodies of its entities. -/
theorem emit_eq_parts (h : g.emit es = .ok text) :
    text = g.header.render "//" ++ "package " ++ g.package ++ "\n\n" ++
      (if imports es = [] then ""
      else "import (\n" ++ String.join ((imports es).map fun p => "\t\"" ++ p ++ "\"\n") ++ ")\n\n") ++
      String.intercalate "\n" (es.map body) := by
  obtain ⟨bodies, hbodies, htext⟩ := bind_eq_ok_iff.mp h
  have hbody : ∀ e b, entity e = .ok b → id b = body e := by
    intro e b hb
    rw [entity] at hb
    split at hb
    · contradiction
    · exact (Except.ok.inj hb).symm
  have hall := map_eq_of_mapM_eq_ok hbody hbodies
  rw [List.map_id] at hall
  rw [← hall]
  exact (Except.ok.inj htext).symm

/-- A field stands in the body of its entity with its name and its type. -/
theorem infix_body {e : Entity} {f : Field} (hf : f ∈ e.fields) :
    ("\t" ++ f.goName ++ " " ++ f.goTypeIdent).toList <:+: (body e).toList := by
  have hline : ("\t" ++ f.goName ++ " " ++ f.goTypeIdent).toList <+: (fieldLine f ++ "\n").toList := by
    simp only [fieldLine, String.append_assoc, String.toList_append]
    simp only [← List.append_assoc]
    exact ((List.prefix_append _ _).trans (List.prefix_append _ _)).trans (List.prefix_append _ _)
  have hlines : (fieldLine f ++ "\n").toList <:+:
      (String.join (e.fields.map fun f => fieldLine f ++ "\n")).toList := by
    rw [String.toList_join, List.flatMap_map]
    exact List.infix_of_mem_flatten (List.mem_map_of_mem hf)
  have hbody : (String.join (e.fields.map fun f => fieldLine f ++ "\n")).toList <:+:
      (body e).toList := by
    simp only [body, String.toList_append, List.append_assoc]
    exact ⟨(docLine e.structName e.comment ++ "type " ++ e.structName ++ " struct \x7b\n").toList, _,
      by simp only [String.toList_append, List.append_assoc]; rfl⟩
  exact (hline.isInfix.trans hlines).trans hbody

/-- The body of each entity stands in the file. -/
theorem infix_text (h : g.emit es = .ok text) {e : Entity} (he : e ∈ es) :
    (body e).toList <:+: text.toList := by
  rw [emit_eq_parts h, String.toList_append, String.toList_intercalate]
  exact (infix_intercalate_of_mem (List.mem_map_of_mem (List.mem_map_of_mem he))).trans
    (List.suffix_append _ _).isInfix

/-- A pointer is qualified as what it points to. -/
theorem qualifier?_goTypeIdent {f : Field} (h : f.goType.ident.toList.head? ≠ some '*') :
    Go.qualifier? f.goTypeIdent = Go.qualifier? f.goType.ident := by
  rw [Field.goTypeIdent]
  split
  · simp [Go.qualifier?, h]
  · rfl

section Standard

variable (h : ∀ e ∈ es, ∀ f ∈ e.fields, f.goType ∈ GoType.standard)
include h

/-- What is imported is a package that some type is qualified by. -/
theorem mem_packages_of_mem_imports {p : String} (hp : p ∈ imports es) :
    p ∈ GoType.packages ∧
      ∃ e ∈ es, ∃ f ∈ e.fields, Go.qualifier? f.goTypeIdent = some (Go.lastSegment p) := by
  obtain ⟨hne, e, he, f, hf, rfl⟩ := mem_imports.mp hp
  obtain ⟨hstar, ⟨hnone, -⟩ | ⟨hpackage, hqualifier⟩⟩ := GoType.spelled_of_mem_standard (h e he f hf)
  · exact absurd hnone hne
  · exact ⟨hpackage, e, he, f, hf, (qualifier?_goTypeIdent hstar).trans hqualifier⟩

/-- The package that a type is qualified by is imported, and is the last part of no other path. -/
theorem existsUnique_import {e : Entity} (he : e ∈ es) {f : Field} (hf : f ∈ e.fields) {q : String}
    (hq : Go.qualifier? f.goTypeIdent = some q) :
    ∃! p, p ∈ imports es ∧ Go.lastSegment p = q := by
  obtain ⟨hstar, hspelled⟩ := GoType.spelled_of_mem_standard (h e he f hf)
  rw [qualifier?_goTypeIdent hstar] at hq
  rcases hspelled with ⟨-, hnone⟩ | ⟨hpackage, hqualifier⟩
  · rw [hnone] at hq
    contradiction
  · rw [hqualifier] at hq
    have hne : f.goType.pkgPath ≠ "" := fun hempty =>
      absurd (hempty ▸ hpackage) GoType.empty_notMem_packages
    refine ⟨f.goType.pkgPath, ⟨mem_imports.mpr ⟨hne, e, he, f, hf, rfl⟩, Option.some.inj hq⟩, ?_⟩
    rintro p ⟨hp, hsegment⟩
    exact GoType.lastSegment_injOn_packages p (mem_packages_of_mem_imports h hp).1 _ hpackage
      (hsegment.trans (Option.some.inj hq).symm)

/-- **A package is imported if a type is qualified by it.** -/
theorem mem_imports_iff_qualifier {p : String} :
    p ∈ imports es ↔ p ∈ GoType.packages ∧
      ∃ e ∈ es, ∃ f ∈ e.fields, Go.qualifier? f.goTypeIdent = some (Go.lastSegment p) := by
  refine ⟨mem_packages_of_mem_imports h, ?_⟩
  rintro ⟨hp, e, he, f, hf, hq⟩
  obtain ⟨p', ⟨hp', hsegment⟩, -⟩ := existsUnique_import h he hf hq
  have hpackage := (mem_packages_of_mem_imports h hp').1
  rwa [GoType.lastSegment_injOn_packages p hp p' hpackage hsegment.symm]

end Standard

/-- A package is imported for the fields that carry a type from it, or for others. -/
theorem mem_imports_iff_carries {key : String} {r : GoTypeOverride} (hpath : r.pkgPath ≠ "") :
    r.pkgPath ∈ imports es ↔ (∃ e ∈ es, ∃ f ∈ e.fields, Carries e f key r) ∨
      ∃ e ∈ es, ∃ f ∈ e.fields, ¬Carries e f key r ∧ f.goType.pkgPath = r.pkgPath := by
  rw [mem_imports]
  constructor
  · rintro ⟨-, e, he, f, hf, hfrom⟩
    by_cases hcarries : Carries e f key r
    · exact Or.inl ⟨e, he, f, hf, hcarries⟩
    · exact Or.inr ⟨e, he, f, hf, hcarries, hfrom⟩
  · rintro (⟨e, he, f, hf, -, htype⟩ | ⟨e, he, f, hf, -, hfrom⟩)
    · exact ⟨hpath, e, he, f, hf, by rw [htype]; rfl⟩
    · exact ⟨hpath, e, he, f, hf, hfrom⟩

/-- **What is imported is what is used.** A file of models has a block with one line for each of its
imports, which is left out without imports; they are in strictly ascending order. Each field stands in the
file with its type. Without replacements, a package is imported exactly if the type of some field, as it is
written, is qualified by the last part of its path; and for every such qualifier there is just one import.
With replacements, the package of one is imported exactly if some field still carries it, or another field
has a type from that package; and the fields that carry it are those of its column that no rule
overrules. -/
theorem imports_exact (hbuilt : ∀ e ∈ es, ∃ m t, Entity.build m o t = .ok e)
    (htext : g.emit es = .ok text) :
    text = g.header.render "//" ++ "package " ++ g.package ++ "\n\n" ++
      (if imports es = [] then ""
      else "import (\n" ++ String.join ((imports es).map fun p => "\t\"" ++ p ++ "\"\n") ++ ")\n\n") ++
      String.intercalate "\n" (es.map body) ∧
    (∀ e ∈ es, ∀ f ∈ e.fields,
      ("\t" ++ f.goName ++ " " ++ f.goTypeIdent).toList <:+: (body e).toList ∧
        (body e).toList <:+: text.toList) ∧
    (imports es).Pairwise (· < ·) ∧
    (o.typeOverrides = .empty →
      (∀ p, p ∈ imports es ↔ p ∈ GoType.packages ∧
        ∃ e ∈ es, ∃ f ∈ e.fields, Go.qualifier? f.goTypeIdent = some (Go.lastSegment p)) ∧
      ∀ e ∈ es, ∀ f ∈ e.fields, ∀ q, Go.qualifier? f.goTypeIdent = some q →
        ∃! p, p ∈ imports es ∧ Go.lastSegment p = q) ∧
    ∀ key r, o.typeOverrides.get? key = some r → r.pkgPath ≠ "" →
      (r.pkgPath ∈ imports es ↔ (∃ e ∈ es, ∃ f ∈ e.fields, Carries e f key r) ∨
        ∃ e ∈ es, ∃ f ∈ e.fields, ¬Carries e f key r ∧ f.goType.pkgPath = r.pkgPath) ∧
      ∀ e ∈ es, ∀ f ∈ e.fields,
        (Carries e f key r ↔ e.name ++ "." ++ f.name = key ∧ ¬o.Overrules f) := by
  refine ⟨emit_eq_parts htext, fun e he f hf => ⟨infix_body hf, infix_text htext he⟩,
    imports_pairwise es, fun hempty => ?_, fun key r hr hpath =>
      ⟨mem_imports_iff_carries hpath, fun e he f hf => ?_⟩⟩
  · have hstandard : ∀ e ∈ es, ∀ f ∈ e.fields, f.goType ∈ GoType.standard := by
      intro e he f hf
      obtain ⟨m, t, hbuild⟩ := hbuilt e he
      obtain ⟨c, kind, goName, rfl⟩ := Entity.exists_ofKind_of_mem hbuild hf
      exact Field.mem_standard_ofKind hempty
    exact ⟨fun p => mem_imports_iff_qualifier hstandard,
      fun e he f hf q hq => existsUnique_import hstandard he hf hq⟩
  · obtain ⟨m, t, hbuild⟩ := hbuilt e he
    obtain ⟨c, kind, goName, rfl⟩ := Entity.exists_ofKind_of_mem hbuild hf
    rw [Carries]
    refine and_congr_right fun hkey => ?_
    -- the key of the field is the key of its column
    have hcolumn : o.typeOverride? t.name c.name = some r := by
      rw [Entity.name_of_build hbuild] at hkey
      have hname : ((Field.ofKind o t c kind).named goName).name = c.name := Field.name_transform o _
      rw [hname] at hkey
      rw [Options.typeOverride?, hkey, hr]
    have hkind : ((Field.ofKind o t c kind).named goName).kind = kind := Field.kind_ofKind o t c kind
    rw [hkind]
    exact Field.goType_eq_replacement_iff hcolumn hpath

/-- A table with a nullable time and a soft-delete column. Its model imports the package of the time. When
its other columns are replaced, it imports the package of the replaced name and not that of the
replacement that the soft-delete marker overrules. -/
theorem imports_exact_user :
    let t : Table :=
      { (default : Table) with
        name := "user",
        columns := [("name", "varchar(64)"), ("deleted_at", "bigint"), ("at", "datetime")].map fun c =>
          { (default : Column) with name := c.1, rawType := c.2, nullable := c.1 == "at" } }
    let o : Options :=
      { Options.standard with
        typeOverrides :=
          .ofList [("user.name", ⟨"*mail.Box", "app/mail"⟩),
            ("user.deleted_at", ⟨"flag.Set", "app/flag"⟩)] }
    let kinds : List ColumnKind := [.string, .int64, .time]
    let plain : Entity := .ofKinds .standard t kinds
    let replaced : Entity := .ofKinds o t kinds
    let g : GoModel := ⟨"model", .none⟩
    Entity.build Dialect.mysql .standard t = .ok plain ∧ Entity.build Dialect.mysql o t = .ok replaced ∧
      (∃ struct, g.emit [plain] = .ok ("package model\n\n" ++
        "import (\n\t\"gorm.io/plugin/soft_delete\"\n\t\"time\"\n)\n\n" ++ struct)) ∧
      (∃ text, g.emit [replaced] = .ok text) ∧
      plain.fields.map Field.goTypeIdent = ["string", "soft_delete.DeletedAt", "*time.Time"] ∧
      (∃! p, p ∈ imports [plain] ∧ Go.lastSegment p = "time") ∧
      replaced.fields.map Field.goTypeIdent = ["*mail.Box", "soft_delete.DeletedAt", "*time.Time"] ∧
      "app/mail" ∈ imports [replaced] ∧ "app/flag" ∉ imports [replaced] := by
  intro t o kinds plain replaced g
  have hplain : Entity.build Dialect.mysql .standard t = .ok plain := by rfl
  have hreplaced : Entity.build Dialect.mysql o t = .ok replaced := by rfl
  obtain ⟨text, htext⟩ : ∃ text, g.emit [plain] = .ok text := by
    rw [GoModel.exists_emit_iff]
    decide +kernel
  obtain ⟨text', htext'⟩ : ∃ text, g.emit [replaced] = .ok text := by
    rw [GoModel.exists_emit_iff]
    decide +kernel
  -- without replacements
  obtain ⟨hparts, -, -, hstandard, -⟩ := imports_exact (o := .standard)
    (by simpa using ⟨Dialect.mysql, t, hplain⟩) htext
  have himports : imports [plain] = ["gorm.io/plugin/soft_delete", "time"] := by
    decide +kernel
  have hblock : g.emit [plain] = .ok ("package model\n\n" ++
      "import (\n\t\"gorm.io/plugin/soft_delete\"\n\t\"time\"\n)\n\n" ++
      String.intercalate "\n" ([plain].map body)) := by
    rw [htext, hparts, himports]
    rfl
  obtain ⟨f, hf, hqualifier⟩ : ∃ f ∈ plain.fields, Go.qualifier? f.goTypeIdent = some "time" := by
    decide +kernel
  -- with replacements, one of which the marker overrules
  obtain ⟨-, -, -, -, hcarried⟩ := imports_exact (o := o)
    (by simpa using ⟨Dialect.mysql, t, hreplaced⟩) htext'
  obtain ⟨hmail, hmailRule⟩ := hcarried "user.name" ⟨"*mail.Box", "app/mail"⟩ (by decide +kernel)
    (by decide)
  obtain ⟨hflag, hflagRule⟩ := hcarried "user.deleted_at" ⟨"flag.Set", "app/flag"⟩
    (by decide +kernel) (by decide)
  have hkept : ∃ f ∈ replaced.fields, replaced.name ++ "." ++ f.name = "user.name" ∧
      ¬o.Overrules f := by decide +kernel
  have hmarked : ∀ f ∈ replaced.fields, replaced.name ++ "." ++ f.name = "user.deleted_at" →
      o.Overrules f := by decide +kernel
  have hother : ∀ f ∈ replaced.fields, f.goType.pkgPath ≠ "app/flag" := by decide +kernel
  refine ⟨hplain, hreplaced, ⟨_, hblock⟩, ⟨text', htext'⟩, by decide +kernel,
    (hstandard rfl).2 plain List.mem_cons_self f hf "time" hqualifier, by decide +kernel, ?_,
    fun himport => ?_⟩
  · obtain ⟨f, hf, hname⟩ := hkept
    exact hmail.mpr (Or.inl ⟨replaced, List.mem_cons_self, f, hf,
      (hmailRule replaced List.mem_cons_self f hf).mpr hname⟩)
  · simp only [List.mem_singleton, exists_eq_left] at hflag
    rcases hflag.mp himport with ⟨f, hf, hcarries⟩ | ⟨f, hf, -, hfrom⟩
    · obtain ⟨hkey, hfree⟩ := (hflagRule replaced List.mem_cons_self f hf).mp hcarries
      exact hfree (hmarked f hf hkey)
    · exact hother f hf hfrom

end GoModel

end Artifact

end Tablewright

import Tablewright.CommandLine.Run
import Tablewright.Proofs.Artifact.AccessorFile
import Tablewright.Proofs.Artifact.Imports
import Tablewright.Proofs.Files.LastStep
import Tablewright.Proofs.Naming.Ascii

/-! # Package names that are derived

A Go package that is given no name is called by the last step of its directory or of its import path, with
`_` for every `-`, or `model` if there is no such step. Nothing else of the step is changed, so what comes
out is an identifier exactly if the step is spelled like one that may have dashes (`IsDashedIdentifier`).

* `Path.isSpecIdentifier_packageName_iff`: when the name is an identifier of Go.
* `Go.isPackageName_packageName_iff`: when a package can have it.
* `CommandLine.derived_package_names`: so much about the lines and types that it is written in.
* `Path.packageName_of_version`: a path that gives no identifier. -/

namespace Tablewright

/-! ## Names with dashes -/

namespace Naming

open Unicode

/-- A word spelled like an identifier of Go in which `-` may stand wherever `_` may. -/
def IsDashedIdentifier (s : String) : Prop :=
  ∃ c cs, s.toList = c :: cs ∧ (c = '_' ∨ c = '-' ∨ isLetter c = true) ∧
    (∀ d ∈ cs, d = '_' ∨ d = '-' ∨ isLetter d = true ∨ isDecimalDigit d = true) ∧ s ∉ goKeywords

/-- A character with `_` for `-`. -/
def undashedChar (c : Char) : Char :=
  if c = '-' then '_' else c

/-- A name with `_` for every `-`. -/
def undashed (s : String) : String :=
  String.ofList (s.toList.map undashedChar)

/-- Dashes are replaced character by character. -/
@[simp] theorem toList_undashed (s : String) : (undashed s).toList = s.toList.map undashedChar :=
  String.toList_ofList

/-- An underscore comes from an underscore or from a dash. -/
theorem undashedChar_eq_underscore_iff {c : Char} : undashedChar c = '_' ↔ c = '_' ∨ c = '-' := by
  rw [undashedChar]
  split <;> simp [*]

/-- Nothing but a dash is changed. -/
theorem holds_undashedChar_iff {c : Char} {p : Char → Prop} :
    undashedChar c = '_' ∨ p (undashedChar c) ↔ c = '_' ∨ c = '-' ∨ p c := by
  rw [undashedChar_eq_underscore_iff, undashedChar, or_assoc]
  by_cases hdash : c = '-'
  · simp [hdash]
  · simp [hdash]

/-- A name without dashes stays as it is. -/
theorem undashed_eq_self {s : String} (h : '-' ∉ s.toList) : undashed s = s := by
  have hself : ∀ c ∈ s.toList, undashedChar c = c := fun c hc =>
    if_neg fun (heq : c = '-') => h (heq ▸ hc)
  rw [← String.toList_inj, toList_undashed, List.map_congr_left hself, List.map_id']

/-- A keyword has neither of the two signs, so no other name becomes one, and none ceases to be one. -/
theorem undashed_mem_goKeywords_iff {s : String} : undashed s ∈ goKeywords ↔ s ∈ goKeywords := by
  have hsigns : ∀ word ∈ goKeywords, '_' ∉ word.toList ∧ '-' ∉ word.toList := by
    decide
  constructor
  · intro hmem
    -- a dash would have become a `_`, which no keyword has
    have hdash : '-' ∉ s.toList := by
      intro hin
      refine (hsigns _ hmem).1 ?_
      rw [toList_undashed]
      exact List.mem_map_of_mem hin
    rwa [undashed_eq_self hdash] at hmem
  · intro hmem
    rwa [undashed_eq_self (hsigns s hmem).2]

/-- **What comes out of a name is an identifier of Go** exactly if the name is one with dashes. -/
theorem isSpecIdentifier_undashed_iff {s : String} :
    IsSpecIdentifier (undashed s) ↔ IsDashedIdentifier s := by
  rw [IsSpecIdentifier, IsDashedIdentifier, toList_undashed, undashed_mem_goKeywords_iff]
  cases s.toList with
  | nil => simp
  | cons c cs =>
      have hc := holds_undashedChar_iff (c := c) (p := fun d => isLetter d = true)
      have hcs (d : Char) := holds_undashedChar_iff (c := d)
        (p := fun d => isLetter d = true ∨ isDecimalDigit d = true)
      simp [hc, hcs]

end Naming

/-! ## Package names of paths -/

namespace Path

open Naming

/-- The last step of the path, if it has one that does not lead upwards, is spelled like an identifier of Go
with dashes. -/
def NamesPackage (path : String) : Prop :=
  ∀ step, LastStep path.toList step.toList → step ≠ ".." → IsDashedIdentifier step

/-- **How a package is called**: by the last step of its path, or if that leads upwards or is missing, by a
name that is always the same. -/
theorem packageName_cases (path : String) :
    (∃ step, LastStep path.toList step.toList ∧ step ≠ ".." ∧ packageName path = undashed step) ∨
      (∀ step, LastStep path.toList step.toList → step = "..") ∧ packageName path = "model" := by
  rw [packageName]
  cases hname : fileName? path with
  | some step =>
      obtain ⟨hlast, hup⟩ := fileName?_eq_some_iff.mp hname
      exact .inl ⟨step, hlast, hup, rfl⟩
  | none =>
      refine .inr ⟨fun step hlast => ?_, rfl⟩
      by_contra hup
      rw [fileName?_eq_some_iff.mpr ⟨hlast, hup⟩] at hname
      contradiction

/-- **A derived name is an identifier of Go** exactly if the last step of the path is one with dashes, or if
there is no step to call it by. -/
theorem isSpecIdentifier_packageName_iff {path : String} :
    IsSpecIdentifier (packageName path) ↔ NamesPackage path := by
  rcases packageName_cases path with ⟨step, hlast, hup, hname⟩ | ⟨hnone, hname⟩
  · rw [hname, isSpecIdentifier_undashed_iff]
    exact ⟨fun h other hother _ => hlast.eq hother ▸ h, fun h => h step hlast hup⟩
  · have hmodel : IsSpecIdentifier "model" :=
      IsAsciiName.isSpecIdentifier (by decide) (by decide)
    rw [hname]
    exact iff_of_true hmodel fun step hlast hup => absurd (hnone step hlast) hup

/-- The last step of the path is `_` or `-`. -/
def NamesBlank (path : String) : Prop :=
  LastStep path.toList ['_'] ∨ LastStep path.toList ['-']

/-- Such a path gives the blank identifier, and no other does. -/
theorem packageName_eq_underscore_iff {path : String} : packageName path = "_" ↔ NamesBlank path := by
  -- a text of one character is told by that character
  have hblank (step : String) : undashed step = "_" ↔ step = "_" ∨ step = "-" := by
    rw [← String.toList_inj, ← String.toList_inj, ← String.toList_inj, toList_undashed]
    show List.map undashedChar step.toList = ['_'] ↔ step.toList = ['_'] ∨ step.toList = ['-']
    rw [List.map_eq_singleton_iff]
    simp only [undashedChar_eq_underscore_iff]
    grind
  rcases packageName_cases path with ⟨step, hlast, hup, hname⟩ | ⟨hnone, hname⟩
  · rw [hname, hblank]
    refine or_congr ⟨?_, ?_⟩ ⟨?_, ?_⟩
    · rintro rfl
      exact hlast
    · exact fun (h : LastStep path.toList "_".toList) => hlast.eq h
    · rintro rfl
      exact hlast
    · exact fun (h : LastStep path.toList "-".toList) => hlast.eq h
  · rw [hname]
    refine iff_of_false (by decide) ?_
    rintro (h | h)
    · exact absurd (hnone "_" h) (by decide)
    · exact absurd (hnone "-" h) (by decide)

/-- **A path may give no identifier**, as one that ends in the version of a module does. -/
theorem packageName_of_version :
    packageName "gopkg.in/acme/model.v2" = "model.v2" ∧ isGoIdentifier "model.v2" = false ∧
      ¬ ∀ path, IsSpecIdentifier (packageName path) := by
  have hname : packageName "gopkg.in/acme/model.v2" = "model.v2" := by
    rfl
  refine ⟨hname, by decide, fun hclaim => ?_⟩
  obtain ⟨c, cs, hcs, -, hrest, -⟩ := hname ▸ hclaim "gopkg.in/acme/model.v2"
  obtain ⟨rfl, rfl⟩ := List.cons.inj hcs
  have hdot := hrest '.' (by decide)
  revert hdot
  decide

end Path

/-! ## Lines and qualifiers -/

namespace Go

open Naming

/-- A name that a package can have: an identifier, but not the blank one. -/
def IsPackageName (name : String) : Prop :=
  IsSpecIdentifier name ∧ name ≠ "_"

/-- A line that says the package of a file. -/
def IsPackageClause (line : String) : Prop :=
  ∃ name, IsPackageName name ∧ line = "package " ++ name

/-- What stands in front of a name of another package. -/
def IsQualifier (text : String) : Prop :=
  ∃ name, IsPackageName name ∧ text = name ++ "."

/-- `package` and a name form a package clause exactly if the name is a package name. -/
theorem isPackageClause_iff {name : String} :
    IsPackageClause ("package " ++ name) ↔ IsPackageName name := by
  constructor
  · rintro ⟨other, hother, heq⟩
    rwa [(String.append_right_inj _).mp heq]
  · exact fun h => ⟨name, h, rfl⟩

/-- A name and a dot form a qualifier exactly if the name is a package name. -/
theorem isQualifier_iff {name : String} : IsQualifier (name ++ ".") ↔ IsPackageName name := by
  constructor
  · rintro ⟨other, hother, heq⟩
    rwa [(String.append_left_inj _).mp heq]
  · exact fun h => ⟨name, h, rfl⟩

/-- **A package can be called as derived** exactly if the name is an identifier and not blank. -/
theorem isPackageName_packageName_iff {path : String} :
    IsPackageName (Path.packageName path) ↔ Path.NamesPackage path ∧ ¬ Path.NamesBlank path := by
  rw [IsPackageName, Path.isSpecIdentifier_packageName_iff, ne_eq,
    Path.packageName_eq_underscore_iff]

end Go

namespace Artifact

/-- The text starts with this header and this line, and an empty line follows. -/
def OpensWith (header : Header) (line text : String) : Prop :=
  ∃ rest, text = header.render "//" ++ line ++ "\n\n" ++ rest

/-- A file of models opens with the clause of its package. -/
theorem GoModel.opensWith_of_emit {g : GoModel} {es : List Entity} {text : String}
    (h : g.emit es = .ok text) : OpensWith g.header ("package " ++ g.package) text := by
  refine ⟨importBlock (imports es) ++ String.intercalate "\n" (es.map body), ?_⟩
  rw [emit_eq_parts h]
  simp only [importBlock, String.append_assoc]

namespace Accessors

variable {a : Accessors} {es : List Entity} {e : Entity} {text : String}

/-- A file of accessors opens with the clause of its package. -/
theorem opensWith_of_emit (h : a.emit es = .ok text) :
    OpensWith a.header ("package " ++ a.package) text := by
  obtain ⟨bodies, -, htext⟩ := bind_eq_ok_iff.mp h
  have hopening : text = a.opening ++ String.join bodies := (Except.ok.inj htext).symm
  -- the line is followed by the imports
  refine ⟨"import (\n" ++
    (if a.modelImportPath = "" then "" else "\t\"" ++ a.modelImportPath ++ "\"\n\n") ++
    "\trapier \"github.com/thinkgos/gorm-rapier\"\n\t\"gorm.io/gorm\"\n)\n\n" ++
    String.join bodies, ?_⟩
  rw [hopening, opening, ← String.toList_inj]
  simp

/-- The type of executors names the model with its package. -/
theorem executor_mem_methods (a : Accessors) (e : Entity) :
    ∃ f ∈ Go.methods (nativeType e.structName) (a.declarations e), f.name = "New_Executor" ∧
      f.result = "*rapier.Executor[" ++ (a.modelQualifier ++ e.structName) ++ "]" := by
  rw [methods_declarations]
  exact ⟨_, List.mem_append_left _ (List.mem_of_getLast? rfl), rfl, rfl⟩

end Accessors

end Artifact

/-! ## Commands -/

namespace CommandLine

open Artifact Naming

/-- The line of a file whose package is called after this directory. -/
def packageClause (dir : String) : String :=
  "package " ++ Path.packageName dir

/-- What the models of the package with this import path are qualified by. -/
def packageQualifier (importPath : String) : String :=
  Path.packageName importPath ++ "."

section Job

variable {config : Config} {a : SourceArguments} {j : Job} {es : List Entity} {text : String}

/-- Where no package is given for models, their files open with the clause for the output path. -/
theorem opensWith_model {package : Option String} {m : MergeArguments}
    (hnone : package.or config.model.package = none)
    (hjob : (Command.model a package m).job config = .ok j) (htext : j.backend.emit es = .ok text) :
    OpensWith a.header (packageClause j.out) text := by
  obtain rfl := Except.ok.inj hjob
  have hopens := GoModel.opensWith_of_emit htext
  rwa [Path.packageOr, hnone] at hopens

/-- Where no package is given for accessors, their files open with the clause for the output path. -/
theorem opensWith_rapier {package importPath : Option String}
    (hnone : package.or config.rapier.package = none)
    (hjob : (Command.rapier a package importPath).job config = .ok j)
    (htext : j.backend.emit es = .ok text) : OpensWith a.header (packageClause j.out) text := by
  obtain rfl := Except.ok.inj hjob
  have hopens := Accessors.opensWith_of_emit htext
  rwa [Path.packageOr, hnone] at hopens

/-- A file of accessors for an entity has a method that gives executors of the model, which is qualified by
the package of its import path. -/
theorem executor_rapier {package importPath : Option String} {path : String} {e : Entity}
    (hpath : importPath.or config.rapier.modelImportPath = some path) (hne : path ≠ "")
    (hjob : (Command.rapier a package importPath).job config = .ok j)
    (htext : j.backend.emit [e] = .ok text) :
    ∃ g : Accessors, text = g.opening ++ Go.source (g.declarations e) ∧
      ∃ f ∈ Go.methods (Accessors.nativeType e.structName) (g.declarations e),
        f.name = "New_Executor" ∧
          f.result = "*rapier.Executor[" ++ (packageQualifier path ++ e.structName) ++ "]" := by
  obtain rfl := Except.ok.inj hjob
  refine ⟨_, Accessors.emit_eq_source htext, ?_⟩
  obtain ⟨f, hf, hname, hresult⟩ := Accessors.executor_mem_methods _ e
  refine ⟨f, hf, hname, ?_⟩
  rw [hresult, Accessors.modelQualifier]
  simp only [hpath, Option.getD_some, if_neg hne]
  rfl

end Job

/-- **Names of packages that are derived.** A path gives an identifier exactly if its last step is one with
dashes, or if it has none to go by, and lines and qualifiers with this name are well-formed exactly if it is
not blank either. Every file of models or accessors whose package is given no name has such a line for its
directory, and accessors qualify the models by such a name for their import path. -/
theorem derived_package_names (config : Config) (a : SourceArguments) (m : MergeArguments)
    (package importPath : Option String) :
    (∀ path, IsSpecIdentifier (Path.packageName path) ↔ Path.NamesPackage path) ∧
      (∀ dir, Go.IsPackageClause (packageClause dir) ↔
        Path.NamesPackage dir ∧ ¬ Path.NamesBlank dir) ∧
      (∀ path, Go.IsQualifier (packageQualifier path) ↔
        Path.NamesPackage path ∧ ¬ Path.NamesBlank path) ∧
      (package.or config.model.package = none →
        ∀ j es text, (Command.model a package m).job config = .ok j → j.backend.emit es = .ok text →
          OpensWith a.header (packageClause j.out) text) ∧
      (package.or config.rapier.package = none →
        ∀ j es text, (Command.rapier a package importPath).job config = .ok j →
          j.backend.emit es = .ok text → OpensWith a.header (packageClause j.out) text) ∧
      (∀ path, importPath.or config.rapier.modelImportPath = some path → path ≠ "" →
        ∀ j e text, (Command.rapier a package importPath).job config = .ok j →
          j.backend.emit [e] = .ok text →
            ∃ g : Accessors, text = g.opening ++ Go.source (g.declarations e) ∧
              ∃ f ∈ Go.methods (Accessors.nativeType e.structName) (g.declarations e),
                f.name = "New_Executor" ∧ f.result =
                  "*rapier.Executor[" ++ (packageQualifier path ++ e.structName) ++ "]") := by
  refine ⟨fun path => Path.isSpecIdentifier_packageName_iff, fun dir => ?clause, fun path => ?qualifier,
    fun hnone j es text hjob htext => opensWith_model hnone hjob htext,
    fun hnone j es text hjob htext => opensWith_rapier hnone hjob htext,
    fun path hpath hne j e text hjob htext => executor_rapier hpath hne hjob htext⟩
  case clause =>
    rw [packageClause, Go.isPackageClause_iff, Go.isPackageName_packageName_iff]
  case qualifier =>
    rw [packageQualifier, Go.isQualifier_iff, Go.isPackageName_packageName_iff]

/-- Into `out/my-repo/`, with models from `example.com/db-model`, the accessors of an entity are written for
the package `my_repo`, and its executors are for the model in `db_model`. -/
theorem derived_package_names_dashes :
    let a : SourceArguments := { (default : SourceArguments) with out := some "out/my-repo/" }
    let e : Entity := { (default : Entity) with name := "user" }
    ∃ j text, (Command.rapier a none (some "example.com/db-model")).job .standard = .ok j ∧
      j.backend.emit [e] = .ok text ∧
      OpensWith .standard "package my_repo" text ∧ Go.IsPackageClause "package my_repo" ∧
      (∃ g : Accessors, text = g.opening ++ Go.source (g.declarations e) ∧
        ∃ f ∈ Go.methods "User_Native" (g.declarations e),
          f.name = "New_Executor" ∧ f.result = "*rapier.Executor[db_model.User]") ∧
      Go.IsQualifier "db_model." := by
  intro a e
  obtain ⟨j, hjob⟩ : ∃ j, (Command.rapier a none (some "example.com/db-model")).job .standard = .ok j :=
    ⟨_, rfl⟩
  have hout : j.out = "out/my-repo/" := by
    obtain rfl := Except.ok.inj hjob
    rfl
  obtain ⟨text, htext⟩ : ∃ text, j.backend.emit [e] = .ok text := by
    obtain rfl := Except.ok.inj hjob
    show ∃ text, Accessors.emit _ [e] = .ok text
    rw [Accessors.exists_emit_iff]
    decide
  obtain ⟨-, hclause, hqualifier, -, hopens, hexecutor⟩ :=
    derived_package_names .standard a default none (some "example.com/db-model")
  -- what the theorem says of the file, still in terms of the two paths
  have hline := hopens rfl j [e] text hjob htext
  have hmethod := hexecutor _ rfl (by decide) j e text hjob htext
  have hdir : Path.packageName "out/my-repo/" = "my_repo" := by
    rfl
  have hpath : Path.packageName "example.com/db-model" = "db_model" := by
    rfl
  have hstruct : e.structName = "User" := by
    decide
  have hdirPackage : Go.IsPackageName "my_repo" :=
    ⟨IsAsciiName.isSpecIdentifier (by decide) (by decide), by decide⟩
  have hpathPackage : Go.IsPackageName "db_model" :=
    ⟨IsAsciiName.isSpecIdentifier (by decide) (by decide), by decide⟩
  rw [packageClause, hout, hdir] at hline
  rw [hstruct, packageQualifier, hpath] at hmethod
  exact ⟨j, text, hjob, htext, hline,
    (hclause "out/my-repo/").mpr (Go.isPackageName_packageName_iff.mp (hdir ▸ hdirPackage)), hmethod,
    (hqualifier "example.com/db-model").mpr (Go.isPackageName_packageName_iff.mp (hpath ▸ hpathPackage))⟩

end CommandLine

end Tablewright

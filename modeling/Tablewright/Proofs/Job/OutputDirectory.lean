import Tablewright.Proofs.Files.Footprint
import Tablewright.Proofs.Job.Artifacts

/-! # Where the files of a job stand

A job that writes entities into files of their own calls each file after its table. The name is taken as
it is, so it may itself be a path, and then the file need not be in the output directory. Which names stay
there can be read off them (`Path.StaysIn`); those without a slash do. If the names of all entities that
the backend emits stay there, all files are directly in the output directory, and no directory is made but
those on the way to it, itself among them (`Job.output_in_directory`). Otherwise a job may write next to
the output directory and make directories there (`Job.output_outside_directory`). -/

namespace Tablewright

open CommandLine (treeWriter)

open FileTree (Footprint footprint_write)

/-- **Doing steps touches the paths of their files only**, whether or not all of them can be done. -/
theorem footprint_perform (t : FileTree) (done : Summary) (xs : List Step) :
    Footprint ((xs.filterMap Step.artifact?).map fun a => a.1.path) t
      ((perform treeWriter done xs).run t).2 := by
  induction xs generalizing t done with
  | nil => exact .refl _ t
  | cons x xs ih =>
      cases x with
      | pass e => exact ih t (done.addFailed e)
      | stop cause => exact .refl _ t
      | write file text owner =>
          have hfirst := footprint_write t file.path text
          have hhead : [file.path] ⊆ ((Step.write file text owner :: xs).filterMap
              Step.artifact?).map fun a => a.1.path :=
            List.cons_subset.mpr ⟨List.mem_cons_self, List.nil_subset _⟩
          rw [perform_write]
          rcases hwrite : t.write file.path text with ⟨fault | _, t₁⟩
          · -- nothing more is done, but the way to the file may be there
            rw [hwrite] at hfirst
            exact hfirst.mono hhead
          · rw [hwrite] at hfirst
            exact (hfirst.mono hhead).trans ((ih t₁ _).mono (List.subset_cons_self _ _))

namespace Job

/-- **Output stays in the output directory** as far as the names of the tables do. The file of an entity
is directly in the output directory exactly if its name stays there, as every name without a slash
does. A job that writes entities into files of their own changes nothing but the ways to the files of
those that the backend emits and these files, whether or not it ends well; and if the names of these
entities stay in the output directory, the files are directly in it, and directories are made on the way
to it only. -/
theorem output_in_directory (j : Job) (hlayout : j.layout = .perEntity) (es : List Entity) :
    (∀ name, Path.IsChild j.out (Path.withSuffix j.out name j.backend.suffix) ↔
      Path.StaysIn j.out name) ∧
    (∀ name : String, '/' ∉ name.toList → Path.StaysIn j.out name) ∧
    ∀ (t : FileTree) (done : Summary),
      let t' := ((perform treeWriter done (j.steps es)).run t).2
      Footprint ((j.artifacts es).map fun a => a.1.path) t t' ∧
      ((∀ e ∈ es, (∃ text, j.backend.emit [e] = .ok text) → Path.StaysIn j.out e.name) →
        (∀ a ∈ j.artifacts es, Path.IsChild j.out a.1.path) ∧
        ∀ p, t'.node? p ≠ t.node? p →
          (t'.node? p = some .directory ∧ t'.OnWay j.out p) ∨
          (∃ text, t'.node? p = some (.file text)) ∧ t'.DirectlyIn j.out p) := by
  refine ⟨Path.isChild_withSuffix_iff j.backend j.out, fun name => Path.staysIn_of_notMem j.out,
    fun t done => ?_⟩
  intro t'
  -- whatever the run ends with, only the artifacts of its steps are written
  have hfootprint : Footprint ((j.artifacts es).map fun a => a.1.path) t t' := by
    rw [← filterMap_artifact?_steps hlayout]
    exact footprint_perform t done (j.steps es)
  refine ⟨hfootprint, fun hnames => ?_⟩
  have hchild : ∀ a ∈ j.artifacts es, Path.IsChild j.out a.1.path := by
    intro a ha
    obtain ⟨e, he, hartifact⟩ := List.mem_filterMap.mp ha
    obtain ⟨hemit, hfile⟩ := artifact?_eq_some_iff.mp hartifact
    rw [hfile]
    exact (Path.isChild_withSuffix_iff j.backend j.out e.name).mpr (hnames e he ⟨a.2, hemit⟩)
  exact ⟨hchild, fun p => hfootprint.change_of_isChild (List.forall_mem_map.mpr hchild)⟩

/-- The table `user` and a table that is named by a path to the output directory, in an empty tree: all
that comes about are the output directory and two files in it. -/
theorem output_in_directory_user :
    let t : FileTree := ⟨[], []⟩
    let j : Job := ⟨"model", ⟨[], "mysql", ⟨[], []⟩, false⟩, .standard, .model ⟨"model", .none⟩,
      "/model", .perEntity, false⟩
    let entity (name : String) : Entity :=
      ⟨name, "", ⟨name, "", none, none, none, [], [], []⟩, [], [], []⟩
    let es : List Entity := [entity "user", entity "/model/./post"]
    let result := (perform treeWriter (.start "model" []) (j.steps es)).run t
    result.1 = .ok
        ⟨"model", [⟨"/model/user.go", ["user"]⟩, ⟨"/model/./post.go", ["/model/./post"]⟩], [], []⟩ ∧
      result.2.nodes.map Prod.fst = [["post.go", "model"], ["user.go", "model"], ["model"]] ∧
      (∀ a ∈ j.artifacts es, Path.IsChild j.out a.1.path) ∧
      ∀ p, result.2.node? p ≠ t.node? p →
        (result.2.node? p = some .directory ∧ result.2.OnWay j.out p) ∨
        (∃ text, result.2.node? p = some (.file text)) ∧ result.2.DirectlyIn j.out p := by
  intro t j entity es result
  obtain ⟨-, -, hruns⟩ := output_in_directory j rfl es
  have hnames : ∀ e ∈ es, Path.StaysIn j.out e.name := by
    decide +kernel
  exact ⟨by decide +kernel, by decide +kernel,
    (hruns t (.start "model" [])).2 fun e he _ => hnames e he⟩

/-- **Output need not stay in the output directory**: for a table named `../log/user` a job ends well that
lists a file outside the output directory, and makes the directory `log` for it. -/
theorem output_outside_directory :
    (¬∀ (j : Job) (t t' : FileTree) (describe : Json.Fault → String) (s : Summary),
      j.layout = .perEntity → (j.run t.read treeWriter describe).run t = (.ok s, t') →
        ∀ f ∈ s.files, Path.IsChild j.out f.path) ∧
    ¬∀ (j : Job) (t t' : FileTree) (describe : Json.Fault → String) (s : Summary),
      j.layout = .perEntity → (j.run t.read treeWriter describe).run t = (.ok s, t') →
        ∀ p, t'.node? p = some .directory → t.node? p = some .directory ∨ t'.OnWay j.out p := by
  let document : Place × Node :=
    (["a.json"], .file ("\x7b\"tables\":[\x7b\"name\":\"../log/user\"," ++
      "\"columns\":[\x7b\"name\":\"id\",\"type\":\"bigint\"\x7d]\x7d]\x7d"))
  let t : FileTree := ⟨[], [document]⟩
  let t' : FileTree :=
    ⟨[], [(["user.sql", "log"], .file ("CREATE TABLE `../log/user` (\n  `id` bigint NOT NULL\n" ++
        ") ENGINE=InnoDB DEFAULT CHARSET=utf8mb4;\n")),
      (["log"], .directory), (["migration"], .directory), document]⟩
  let j : Job := ⟨"sql", ⟨["a.json"], "mysql", ⟨[], []⟩, false⟩, .standard, .sql ⟨.none⟩,
    "./migration", .perEntity, false⟩
  let file : WrittenFile := ⟨"./migration/../log/user.sql", ["../log/user"]⟩
  have hresult : ((j.run t.read treeWriter fun _ => "").run t).1 = .ok ⟨"sql", [file], [], []⟩ := by
    decide +kernel
  have htree : ((j.run t.read treeWriter fun _ => "").run t).2 = t' := by
    decide +kernel
  have hrun : (j.run t.read treeWriter fun _ => "").run t = (.ok ⟨"sql", [file], [], []⟩, t') :=
    Prod.ext hresult htree
  constructor
  · intro hclaim
    have hchild : Path.IsChild "./migration" "./migration/../log/user.sql" :=
      hclaim j t t' (fun _ => "") _ rfl hrun file (List.mem_singleton.mpr rfl)
    -- the path has four components where the directory has one
    obtain ⟨name, -, hcomponents⟩ := hchild.components_eq
    have hlength := congrArg List.length hcomponents
    rw [List.length_append, List.length_singleton] at hlength
    exact absurd hlength (by decide +kernel)
  · intro hclaim
    rcases hclaim j t t' (fun _ => "") _ rfl hrun ["log"] (by decide +kernel) with hold | hway
    · exact absurd hold (by decide +kernel)
    · exact absurd hway (by decide +kernel)

end Job

end Tablewright

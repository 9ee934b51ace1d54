import Tablewright.CommandLine.Tree
import Tablewright.Proofs.Files.Path
import Tablewright.Proofs.Files.Tree

/-! # Steps that are done in a file tree

What a job does to a tree of files is decided by its steps: up to the first refusal their texts are
written, one after the other.

* `perform_append`: steps that all can be done are done before what stands behind them.
* `perform_eq_ok`: a job that ends well has written every text and tells about every step.
* `emit_or_write_of_perform_eq_error`: a job that has begun with its steps fails for a refusal or a
  file that cannot be written.
* `Job.run_eq_perform`, `Job.exists_load_of_run_eq_ok`: a job does its steps once it has loaded its
  schema. -/

namespace Tablewright

open CommandLine (treeWriter)

/-! ## Steps -/

namespace Step

/-- The file that a step writes, with its text. -/
def artifact? : Step → Option (WrittenFile × String)
  | write file text _ => some (file, text)
  | pass _ => none
  | stop _ => none

/-- Does a step end the job? -/
def stops : Step → Bool
  | stop _ => true
  | write _ _ _ => false
  | pass _ => false

/-- The summary after a step that is done. -/
def told (s : Summary) : Step → Summary
  | write file _ _ => s.addFile file
  | pass e => s.addFailed e
  | stop _ => s

/-- A summary lists the files of the steps in order. -/
theorem files_foldl_told (s : Summary) (xs : List Step) :
    (xs.foldl told s).files = s.files ++ (xs.filterMap artifact?).map Prod.fst := by
  induction xs generalizing s with
  | nil => exact (List.append_nil _).symm
  | cons x xs ih =>
      rw [List.foldl_cons, ih]
      cases x with
      | write file text owner => exact List.append_assoc s.files [file] _
      | pass e => rfl
      | stop cause => rfl

end Step

/-- The path and the text of a file that is written. -/
def placed (a : WrittenFile × String) : String × String :=
  (a.1.path, a.2)

/-- The writes that lead to a place are those of the artifacts whose paths do. -/
theorem leadingTo_map_placed (t : FileTree) (p : Place) (as : List (WrittenFile × String)) :
    t.leadingTo p (as.map placed) = (as.filter fun a => t.leadsTo a.1.path p).map placed :=
  List.filter_map

/-! ## Doing the steps -/

variable {t t' : FileTree} {done s : Summary} {x : Step} {xs ys : List Step}

/-- A step that writes asks the writer first and goes on, or fails, as it answers. -/
theorem run_perform_write {σ : Type} (write : Writer (StateM σ)) (u : σ) (file : WrittenFile)
    (text : String) (owner : Option String) :
    (perform write done (.write file text owner :: xs)).run u =
      match (write file.path text).run u with
      | (.ok (), u₁) => (perform write (done.addFile file) xs).run u₁
      | (.error fault, u₁) => (.error (.write owner fault), u₁) := by
  rw [perform, StateT.run_bind]
  rcases (write file.path text).run u with ⟨_ | _, u₁⟩
  · rfl
  · rfl

/-- A step that writes goes on in the tree after the write, or fails where the tree refuses it. -/
theorem perform_write (file : WrittenFile) (text : String) (owner : Option String) :
    (perform treeWriter done (.write file text owner :: xs)).run t =
      match t.write file.path text with
      | (.ok (), t₁) => (perform treeWriter (done.addFile file) xs).run t₁
      | (.error fault, t₁) => (.error (.write owner fault), t₁) := by
  have hwriter : (treeWriter file.path text).run t = t.write file.path text := rfl
  rw [run_perform_write, hwriter]
  rcases t.write file.path text with ⟨_ | _, t₁⟩
  · rfl
  · rfl

/-- **Steps that can all be done are done before what stands behind them.** -/
theorem perform_append (hstops : ∀ x ∈ xs, x.stops = false)
    (h : t.writeAll ((xs.filterMap Step.artifact?).map placed) = .ok t') :
    (perform treeWriter done (xs ++ ys)).run t =
      (perform treeWriter (xs.foldl Step.told done) ys).run t' := by
  induction xs generalizing t done with
  | nil =>
      obtain rfl := Except.ok.inj h
      rfl
  | cons x xs ih =>
      obtain ⟨hx, hxs⟩ := List.forall_mem_cons.mp hstops
      cases x with
      | write file text owner =>
          obtain ⟨t₁, hwrite, hrest⟩ := FileTree.writeAll_cons_eq_ok h
          rw [List.cons_append, perform_write, hwrite]
          exact ih hxs hrest
      | pass e => exact ih hxs h
      | stop cause => contradiction

/-- **A job that ends well has written every text** and tells about every step. -/
theorem perform_eq_ok (h : (perform treeWriter done xs).run t = (.ok s, t')) :
    (∀ x ∈ xs, x.stops = false) ∧
      t.writeAll ((xs.filterMap Step.artifact?).map placed) = .ok t' ∧
      s = xs.foldl Step.told done := by
  induction xs generalizing t done with
  | nil =>
      obtain ⟨hs, ht⟩ := Prod.mk.inj h
      exact ⟨List.forall_mem_nil _, congrArg Except.ok ht, (Except.ok.inj hs).symm⟩
  | cons x xs ih =>
      cases x with
      | write file text owner =>
          rw [perform_write] at h
          split at h
          case h_1 t₁ hwrite =>
            obtain ⟨hstops, hall, hs⟩ := ih h
            refine ⟨List.forall_mem_cons.mpr ⟨rfl, hstops⟩, ?_, hs⟩
            show t.writeAll ((file.path, text) :: _) = _
            rw [FileTree.writeAll, hwrite]
            exact hall
          case h_2 =>
            obtain ⟨hs, -⟩ := Prod.mk.inj h
            contradiction
      | pass e =>
          obtain ⟨hstops, hall, hs⟩ := ih h
          exact ⟨List.forall_mem_cons.mpr ⟨rfl, hstops⟩, hall, hs⟩
      | stop cause =>
          -- a step that stops does not end well
          obtain ⟨hs, -⟩ := Prod.mk.inj h
          contradiction

/-- **Steps fail for a refusal or a file that cannot be written**, and for nothing else. -/
theorem emit_or_write_of_perform_eq_error {e : JobError}
    (h : ((perform treeWriter done xs).run t).1 = .error e) :
    (∃ cause, e = .emit cause) ∨ ∃ owner fault, e = .write owner fault := by
  induction xs generalizing t done with
  | nil => contradiction
  | cons x xs ih =>
      cases x with
      | write file text owner =>
          rw [perform_write] at h
          split at h
          case h_1 t₁ hwrite => exact ih h
          case h_2 fault t₁ hwrite => exact .inr ⟨owner, fault, (Except.error.inj h).symm⟩
      | pass e' => exact ih h
      | stop cause => exact .inl ⟨cause, (Except.error.inj h).symm⟩

/-! ## Jobs -/

namespace Job

variable {j : Job} {read : String → Except FileFault String}

/-- **A job does the steps for its schema**, once that is loaded. -/
theorem run_eq_perform [Pattern.Library] {m : Type → Type} [Monad m] {loaded : Loaded}
    (hload : j.source.load read .builtin j.options = .ok loaded) (write : Writer m)
    (describe : Json.Fault → String) :
    j.run read write describe =
      perform write
        (.start j.command
          (loaded.skipped.map fun (path, cause) => ⟨path, cause.message describe path⟩))
        (j.steps loaded.schema.entities) := by
  rw [run, hload]

/-- A job that ends well has loaded a schema. -/
theorem exists_load_of_run_eq_ok [Pattern.Library] {describe : Json.Fault → String}
    (h : (j.run read treeWriter describe).run t = (.ok s, t')) :
    ∃ loaded, j.source.load read .builtin j.options = .ok loaded := by
  rw [run] at h
  cases hload : j.source.load read .builtin j.options with
  | error cause =>
      rw [hload] at h
      obtain ⟨hs, -⟩ := Prod.mk.inj h
      contradiction
  | ok loaded => exact ⟨loaded, rfl⟩

end Job

end Tablewright

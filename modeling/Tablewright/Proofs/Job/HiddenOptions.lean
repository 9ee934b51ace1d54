import Tablewright.Files.Tree
import Tablewright.Pattern.Engine
import Tablewright.Proofs.Artifact.Parts
import Tablewright.Proofs.Job.Options

/-! # Options that do not show

Messages read no options at all, and accessors read the three that make integers of a field and the
names that are kept free. Everything else that options say, tags and replacement types among it, stays
hidden in what these backends write, and in what their jobs do.

* `Artifact.ProtoFile.reads_messagePart`, `Artifact.Accessors.reads_accessorPart`: what is read.
* `Schema.options_hidden`: the texts, and whole runs, are the same. -/

namespace Tablewright

open Artifact (Backend ProtoFile Accessors)

/-- Messages read the part for messages. -/
theorem Artifact.ProtoFile.reads_messagePart (p : ProtoFile) :
    (Backend.proto p).Reads (fun _ => True) Entity.messagePart where
  name_eq {e e'} _ _ h := by
    show e.messagePart.name = e'.messagePart.name
    rw [h]
  emit_eq {es es'} _ _ h := by
    show p.emit es = p.emit es'
    rw [← p.emit_messagePart es, h, p.emit_messagePart]

/-- Accessors read the part for accessors. -/
theorem Artifact.Accessors.reads_accessorPart (a : Accessors) :
    (Backend.rapier a).Reads (fun _ => True) Entity.accessorPart where
  name_eq {e e'} _ _ h := by
    show e.accessorPart.name = e'.accessorPart.name
    rw [h]
  emit_eq {es es'} _ _ h := by
    show a.emit es = a.emit es'
    rw [← a.emit_accessorPart es, h, a.emit_accessorPart]

/-! ## Parts that are built the same -/

section

variable {o o' : Options}

/-- A backend writes the same for the schemas of a database under options that build what it reads in
the same way. -/
theorem Schema.emit_build_congr {b : Backend} {part : Entity → Entity}
    (hb : b.Reads (fun _ => True) part)
    (hpart : ∀ t kinds, part (.ofKinds o t kinds) = part (.ofKinds o' t kinds))
    (m : Dialect.Mapper) (d : Database) :
    (Schema.build m o d).map (fun s => b.emit s.entities) =
      (Schema.build m o' d).map fun s => b.emit s.entities := by
  rw [build_eq, build_eq]
  cases d.kinds m with
  | error e =>
      -- each side on its own: the two never need to be compared under different options
      show Except.error e = Except.error e
      rfl
  | ok kinds =>
      have hparts : (ofKinds o d kinds).entities.map part =
          (ofKinds o' d kinds).entities.map part := by
        simp only [ofKinds, List.map_zipWith, hpart]
      have hemit := hb.emit_eq (fun _ _ => trivial) (fun _ _ => trivial) hparts
      show Except.ok (b.emit (ofKinds o d kinds).entities) =
        Except.ok (b.emit (ofKinds o' d kinds).entities)
      rw [hemit]

/-- A job does the same under options that build what its backend reads in the same way. -/
theorem Job.run_withOptions_of_part [Pattern.Library] {m : Type → Type} [Monad m] {j : Job}
    (part : Entity → Entity) (hj : j.backend.Reads (fun _ => True) part)
    (hname : ∀ e, (part e).name = e.name)
    (hpart : ∀ t kinds, part (.ofKinds o t kinds) = part (.ofKinds o' t kinds))
    (read : String → Except FileFault String) (write : Writer m)
    (describe : Json.Fault → String) :
    (j.withOptions o).run read write describe = (j.withOptions o').run read write describe := by
  refine run_withOptions_congr (fun _ _ => rfl) (fun x _ _ => ?_) write describe
  exact steps_congr hj (fun _ _ => trivial) (fun _ _ => trivial)
    (x.map_loaded_congr Entity.name hname hpart j.source.sort)

end

/-- **Backends see no more of the options than they should.** What is written as messages, or why it is
not, is the same under any two options. What is written as accessors is the same under options that
agree on widening integers, on making integers of booleans and on the names to escape. Both hold of
the text for the schema of a database and of whole jobs, with all that they read, write and tell. -/
theorem Schema.options_hidden [Pattern.Library] :
    (∀ (p : ProtoFile) (o o' : Options),
      (∀ (m : Dialect.Mapper) (d : Database),
        (Schema.build m o d).map (fun s => p.emit s.entities) =
          (Schema.build m o' d).map fun s => p.emit s.entities) ∧
      ∀ (μ : Type → Type) [Monad μ] (j : Job) (read : String → Except FileFault String)
        (write : Writer μ) (describe : Json.Fault → String), j.backend = .proto p →
          (j.withOptions o).run read write describe =
            (j.withOptions o').run read write describe) ∧
    (∀ (a : Accessors) (o o' : Options), o.enableInt = o'.enableInt →
      o.enableIntegerInt = o'.enableIntegerInt → o.enableBoolInt = o'.enableBoolInt →
      o.escapeName = o'.escapeName →
        (∀ (m : Dialect.Mapper) (d : Database),
          (Schema.build m o d).map (fun s => a.emit s.entities) =
            (Schema.build m o' d).map fun s => a.emit s.entities) ∧
        ∀ (μ : Type → Type) [Monad μ] (j : Job) (read : String → Except FileFault String)
          (write : Writer μ) (describe : Json.Fault → String), j.backend = .rapier a →
            (j.withOptions o).run read write describe =
              (j.withOptions o').run read write describe) := by
  constructor
  · intro p o o'
    -- a message is made from a part of the entity that no option changes
    have hpart := Entity.messagePart_ofKinds o o'
    refine ⟨fun m d => emit_build_congr p.reads_messagePart hpart m d, ?_⟩
    intro μ _ j read write describe hj
    exact Job.run_withOptions_of_part Entity.messagePart (hj ▸ p.reads_messagePart)
      (fun _ => rfl) hpart read write describe
  · intro a o o' hint hinteger hbool hescape
    -- accessors are made from a part that only four of the options change
    have hsame : o.SameAccessors o' := ⟨hint, hinteger, hbool, hescape⟩
    have hpart := Entity.accessorPart_ofKinds hsame
    refine ⟨fun m d => emit_build_congr a.reads_accessorPart hpart m d, ?_⟩
    intro μ _ j read write describe hj
    exact Job.run_withOptions_of_part Entity.accessorPart (hj ▸ a.reads_accessorPart)
      (fun _ => rfl) hpart read write describe

/-- Without tags, with a replacement type, with wrappers in the place of pointers and no comments in
the tags, a job writes the messages and the accessors that it writes under the standard options. -/
theorem Schema.options_hidden_standard :
    let o : Options :=
      { Options.standard with
        disableNullToPoint := true, disableCommentTag := true, enableForeignKey := true
        tags := .empty, typeOverrides := .ofList [("user.id", ⟨"uuid.UUID", "uuid"⟩)] }
    let jobFor (backend : Backend) : Job := { (default : Job) with backend := backend }
    o ≠ .standard ∧ o.enableInt = Options.standard.enableInt ∧
      o.enableIntegerInt = Options.standard.enableIntegerInt ∧
      o.enableBoolInt = Options.standard.enableBoolInt ∧
      o.escapeName = Options.standard.escapeName ∧
      ∀ (read : String → Except FileFault String) (write : Writer (StateM FileTree))
        (describe : Json.Fault → String),
        ((jobFor (.proto default)).withOptions o).run read write describe =
            ((jobFor (.proto default)).withOptions .standard).run read write describe ∧
          ((jobFor (.rapier default)).withOptions o).run read write describe =
            ((jobFor (.rapier default)).withOptions .standard).run read write describe := by
  intro o jobFor
  refine ⟨by decide, rfl, rfl, rfl, rfl, fun read write describe => ?_⟩
  obtain ⟨hproto, hrapier⟩ := options_hidden
  exact ⟨(hproto default o .standard).2 _ (jobFor (.proto default)) read write describe rfl,
    (hrapier default o .standard rfl rfl rfl rfl).2 _ (jobFor (.rapier default)) read write
      describe rfl⟩

end Tablewright

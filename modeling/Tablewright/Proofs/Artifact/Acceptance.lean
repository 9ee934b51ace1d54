import Tablewright.Artifact.Backend
import Tablewright.Proofs.Lists

/-! # What backends accept

Every backend goes through its entities one by one and puts together what it has made of each
(`Backend.text`), so it accepts entities if it accepts each of them, and otherwise refuses for the
reason that it has for the first one that it does not accept.

* `Backend.exists_emit_eq`: what is written is put together from the texts of the entities.
* `Backend.accepts_iff`: entities are accepted together if each of them is on its own. -/

namespace Tablewright.Artifact.Backend

/-- What a backend makes of one entity, before it is put into a file. -/
def text : Backend → Entity → Except EmitError String
  | model _, e => GoModel.entity e
  | proto p, e => p.entity e
  | sql _, e => TableScript.createTable e
  | rapier a, e => a.entity e

/-- **What is written is put together from the texts of the entities**, of which the first refusal
decides. -/
theorem exists_emit_eq (b : Backend) (es : List Entity) :
    ∃ join : List String → String, b.emit es = (es.mapM b.text).map join := by
  cases b with
  | model m => exact ⟨_, rfl⟩
  | proto p => exact ⟨_, rfl⟩
  | sql s => exact ⟨_, rfl⟩
  | rapier a => exact ⟨_, rfl⟩

/-- There is a file for some entities if there is a text for each of them. -/
theorem exists_emit_eq_ok_iff (b : Backend) (es : List Entity) :
    (∃ t, b.emit es = .ok t) ↔ ∀ e ∈ es, ∃ t, b.text e = .ok t := by
  obtain ⟨join, hjoin⟩ := b.exists_emit_eq es
  rw [hjoin]
  constructor
  · rintro ⟨t, ht⟩ e he
    cases htexts : es.mapM b.text with
    | error cause =>
        rw [htexts] at ht
        contradiction
    | ok texts => exact exists_eq_ok_of_mapM_eq_ok htexts he
  · intro h
    obtain ⟨texts, htexts⟩ := exists_mapM_eq_ok h
    exact ⟨join texts, by rw [htexts]; rfl⟩

/-- There is a file for one entity if there is a text for it. -/
theorem exists_emit_singleton_iff (b : Backend) (e : Entity) :
    (∃ t, b.emit [e] = .ok t) ↔ ∃ t, b.text e = .ok t := by
  rw [exists_emit_eq_ok_iff, List.forall_mem_singleton]

/-- **Entities are accepted together if each of them is accepted on its own.** -/
theorem accepts_iff (b : Backend) (es : List Entity) :
    (∃ t, b.emit es = .ok t) ↔ ∀ e ∈ es, ∃ t, b.emit [e] = .ok t := by
  simp only [exists_emit_eq_ok_iff, List.forall_mem_singleton]

end Tablewright.Artifact.Backend

import Tablewright.Proofs.Artifact.GoIdentifiers
import Tablewright.Proofs.Naming.Ascii

/-! # The names that models accept

A model asks for identifiers as the names of its structs and of their fields. The names of the fields are the
exported forms of the names of the columns, some of them with an `X` in front because they met or were
reserved. Such an `X` cannot make good for a name that is no identifier: of the fields with that name, the
first keeps it.

* `Entity.isGoIdentifier_resolveNames_iff`: resolving names neither makes nor breaks identifiers.
* `GoModel.exists_emit_iff_startsWithLetter`: for names in ASCII, the first letter or digit of each decides. -/

namespace Tablewright

/-- **Resolving names neither makes nor breaks identifiers**, if the names that are reserved are identifiers
themselves. -/
theorem Entity.isGoIdentifier_resolveNames_iff {e : Entity} {escapes : List String}
    (hescapes : ∀ n ∈ escapes, Naming.isGoIdentifier n = true) :
    (∀ n ∈ (e.resolveNames escapes).goNames, Naming.isGoIdentifier n = true) ↔
      ∀ n ∈ e.goNames, Naming.isGoIdentifier n = true := by
  refine ⟨fun h n hn => ?_, isGoIdentifier_of_mem_resolveNames⟩
  by_cases hreserved : n ∈ FieldNames.reserved ++ escapes
  · have hfixed : ∀ n ∈ FieldNames.reserved, Naming.isGoIdentifier n = true := by
      decide +kernel
    exact (List.mem_append.mp hreserved).elim (hfixed n) (hescapes n)
  · -- the first field that came with the name still has it
    refine h n ?_
    rw [goNames_resolveNames]
    exact FieldNames.mem_assign_of_mem hn hreserved hn

namespace Artifact

open Naming (IsAsciiName StartsWithLetter isGoIdentifier_camelCase_iff)

/-- **A model of a table whose names are in ASCII is accepted** exactly if the first letter or digit of the
name of the table, and of each column, is a letter. A word that Go keeps for itself is as good a name as any
other. -/
theorem GoModel.exists_emit_iff_startsWithLetter {m : Dialect.Mapper} {o : Options} {t : Table}
    {e : Entity} (hbuild : Entity.build m o t = .ok e) (hescape : o.escapeName = [])
    (htable : IsAsciiName t.name) (hcolumns : ∀ c ∈ t.columns, IsAsciiName c.name) (g : GoModel) :
    ((∃ text, g.emit [e] = .ok text) ↔
      StartsWithLetter t.name ∧ ∀ c ∈ t.columns, StartsWithLetter c.name) ∧
      ∀ keyword ∈ Naming.goKeywords, StartsWithLetter keyword := by
  refine ⟨?_, by decide⟩
  obtain ⟨kinds, hkinds, rfl⟩ := Entity.exists_ofKinds_eq hbuild
  have hstruct : Naming.isGoIdentifier (Entity.ofKinds o t kinds).structName = true ↔
      StartsWithLetter t.name :=
    isGoIdentifier_camelCase_iff htable
  -- without names to escape, resolving never makes a name invalid or valid
  have hresolved : (∀ n ∈ (Entity.ofKinds o t kinds).goNames, Naming.isGoIdentifier n = true) ↔
      ∀ n ∈ t.columns.map fun c => Naming.camelCase c.name, Naming.isGoIdentifier n = true := by
    rw [Entity.ofKinds, hescape, Entity.isGoIdentifier_resolveNames_iff (List.forall_mem_nil _),
      Entity.goNames_ofFields hkinds]
  rw [exists_emit_iff, hstruct, hresolved, List.forall_mem_map]
  refine and_congr_right fun _ => forall₂_congr fun c hc => ?_
  exact isGoIdentifier_camelCase_iff (hcolumns c hc)

/-- A table `type` is accepted with columns of which one is called like a keyword, two meet, and one is
reserved. It is not with two columns that meet at a digit, although only one of them is left with it. -/
theorem GoModel.exists_emit_iff_startsWithLetter_type :
    let table (names : List String) : Table :=
      { (default : Table) with
        name := "type"
        columns := names.map fun name => { (default : Column) with name := name, rawType := "int" } }
    (∃ e, Entity.build Dialect.mysql .standard (table ["func", "_go", "GO!", "table name"]) = .ok e ∧
      e.goNames = ["Func", "Go", "XGo", "XTableName"] ∧
      ∃ text, (default : GoModel).emit [e] = .ok text) ∧
    ∃ e, Entity.build Dialect.mysql .standard (table ["2", "_2"]) = .ok e ∧
      e.goNames = ["2", "X2"] ∧ ¬ ∃ text, (default : GoModel).emit [e] = .ok text := by
  intro table
  have hbuild (names : List String) (kinds : List ColumnKind)
      (h : (table names).kinds Dialect.mysql = .ok kinds) :
      Entity.build Dialect.mysql .standard (table names) =
        .ok (Entity.ofKinds .standard (table names) kinds) := by
    rw [Entity.build_eq, h]
    rfl
  have hletters := hbuild ["func", "_go", "GO!", "table name"] [.int32, .int32, .int32, .int32] rfl
  have hdigits := hbuild ["2", "_2"] [.int32, .int32] rfl
  refine ⟨⟨_, hletters, by decide +kernel, ?_⟩, ⟨_, hdigits, by decide +kernel, ?_⟩⟩
  · have hiff := (exists_emit_iff_startsWithLetter hletters rfl (by decide +kernel)
      (by decide +kernel) default).1
    exact hiff.mpr (by decide +kernel)
  · have hiff := (exists_emit_iff_startsWithLetter hdigits rfl (by decide +kernel)
      (by decide +kernel) default).1
    rw [hiff]
    decide +kernel

end Artifact

end Tablewright

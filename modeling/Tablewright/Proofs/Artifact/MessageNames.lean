import Mathlib.Data.List.Nodup
import Tablewright.Dialect.Builtin
import Tablewright.Proofs.Artifact.MessageFile
import Tablewright.Proofs.Entity.Build
import Tablewright.Proofs.Naming.SameWords

/-! # Names in messages

The fields of a message are named after their columns, spelled in the style of the file. The names of struct
fields are resolved where two of them meet; those of message fields stay as they are. So a message names its
fields apart exactly if the columns are spelled apart, and where their words are plain, if no two columns
have the same words.

* `ProtoFile.fieldNames_of_build`: the names are the spellings of the columns.
* `ProtoFile.fieldNames_nodup`: when they are different.
* `ProtoFile.fieldNames_meet`: they may meet although the columns have different names. -/

namespace Tablewright.Artifact.ProtoFile

open Naming (IsPlain SameWords)

variable {p : ProtoFile} {m : Dialect.Mapper} {o : Options} {t : Table} {e : Entity} {text : String}

/-- The name of a column as a file of messages spells it. -/
def spelled (p : ProtoFile) (column : String) : String :=
  match p.style with
  | some style => style.apply column
  | none => column

/-- The names that stand in the message of an entity. -/
def fieldNames (p : ProtoFile) (e : Entity) : List String :=
  (p.message e).rows.map Proto.Row.name

/-- The names of message fields are the spelled names of the columns. -/
theorem fieldNames_eq_map (p : ProtoFile) (e : Entity) :
    p.fieldNames e = e.fields.map fun f => p.spelled f.name := by
  have hnames := congrArg (List.map fun r => r.2.2) (rows_message (p := p) e)
  rw [List.map_map, List.map_map] at hnames
  exact hnames

/-- The names in the message of a built entity are the spellings of the columns. -/
theorem fieldNames_of_build (h : Entity.build m o t = .ok e) :
    p.fieldNames e = (t.columns.map Column.name).map p.spelled := by
  have hnames : e.fields.map Field.name = t.columns.map Column.name := by
    obtain ⟨kinds, hlength, rfl⟩ := Entity.exists_ofKinds_eq h
    exact Entity.names_ofKinds hlength
  rw [fieldNames_eq_map, ← hnames, List.map_map]
  rfl

/-- **When the names in a message are different.** For columns with different names they are without a
style. With one they are exactly if no two columns are spelled alike, and if the columns have plain words,
exactly if no two have the same words up to case. -/
theorem fieldNames_nodup (hbuild : Entity.build m o t = .ok e)
    (hcolumns : (t.columns.map Column.name).Nodup) (h : p.emit [e] = .ok text) :
    text = (p.file [e]).text ∧ (p.file [e]).messages = [p.message e] ∧
      (p.style = none → p.fieldNames e = t.columns.map Column.name ∧ (p.fieldNames e).Nodup) ∧
      ∀ style, p.style = some style →
        ((p.fieldNames e).Nodup ↔ ∀ c ∈ t.columns, ∀ c' ∈ t.columns,
          style.apply c.name = style.apply c'.name → c.name = c'.name) ∧
        ((∀ c ∈ t.columns, IsPlain c.name) →
          ((p.fieldNames e).Nodup ↔ ∀ c ∈ t.columns, ∀ c' ∈ t.columns,
            SameWords c.name c'.name → c.name = c'.name)) := by
  have hnames := fieldNames_of_build (p := p) hbuild
  refine ⟨p.emit_eq_text h, rfl, fun hnone => ?_, fun style hstyle => ?_⟩
  · have hsame : p.spelled = id := by
      funext column
      rw [spelled, hnone]
      rfl
    rw [hnames, hsame, List.map_id]
    exact ⟨rfl, hcolumns⟩
  · have hspelled : p.spelled = style.apply := by
      funext column
      rw [spelled, hstyle]
    -- the columns are apart, so names are exactly if spelling is injective on the columns
    have hapart : (p.fieldNames e).Nodup ↔ ∀ c ∈ t.columns, ∀ c' ∈ t.columns,
        style.apply c.name = style.apply c'.name → c.name = c'.name := by
      rw [hnames, hspelled, List.nodup_map_iff_inj_on hcolumns]
      simp only [List.forall_mem_map]
    refine ⟨hapart, fun hplain => hapart.trans ?_⟩
    refine forall₄_congr fun c hc c' hc' => ?_
    rw [style.apply_eq_iff (hplain c hc) (hplain c' hc')]

/-- The columns `user_id` and `userName` have different words, and different names in small camel case. -/
theorem fieldNames_nodup_user :
    let t : Table :=
      { (default : Table) with
        name := "user",
        columns := ["user_id", "userName"].map fun name =>
          { (default : Column) with name := name, rawType := "int" } }
    let e : Entity := .ofKinds .standard t [.int32, .int32]
    let p : ProtoFile := { (default : ProtoFile) with style := some .smallCamelCase }
    Entity.build Dialect.mysql .standard t = .ok e ∧ (t.columns.map Column.name).Nodup ∧
      (∃ text, p.emit [e] = .ok text) ∧ p.fieldNames e = ["userId", "userName"] ∧
      (p.fieldNames e).Nodup := by
  intro t e p
  have hbuild : Entity.build Dialect.mysql .standard t = .ok e := by rfl
  have hcolumns : (t.columns.map Column.name).Nodup := by decide
  have haccepted : ∀ e' ∈ [e], p.refusal? e' = none := by decide +kernel
  obtain ⟨text, htext⟩ := exists_emit_iff.mpr haccepted
  obtain ⟨-, -, -, hstyled⟩ := fieldNames_nodup hbuild hcolumns htext
  obtain ⟨-, hwords⟩ := hstyled .smallCamelCase rfl
  refine ⟨hbuild, hcolumns, ⟨text, htext⟩, by decide +kernel, (hwords ?_).mpr ?_⟩
  · decide +kernel
  · decide +kernel

/-- **The names may meet although the columns have different names**: in snake case `a_b` and `aB` are both
spelled `a_b`. -/
theorem fieldNames_meet :
    ¬ ∀ (p : ProtoFile) (m : Dialect.Mapper) (o : Options) (t : Table) (e : Entity) (text : String),
      Entity.build m o t = .ok e → (t.columns.map Column.name).Nodup → p.emit [e] = .ok text →
        (p.fieldNames e).Nodup := by
  intro hclaim
  let t : Table :=
    { (default : Table) with
      name := "t",
      columns := ["a_b", "aB"].map fun name =>
        { (default : Column) with name := name, rawType := "int" } }
  let e : Entity := .ofKinds .standard t [.int32, .int32]
  let p : ProtoFile := { (default : ProtoFile) with style := some .snakeCase }
  have hbuild : Entity.build Dialect.mysql .standard t = .ok e := by rfl
  have haccepted : ∀ e' ∈ [e], p.refusal? e' = none := by decide +kernel
  obtain ⟨text, htext⟩ := exists_emit_iff.mpr haccepted
  have hnodup := hclaim p Dialect.mysql .standard t e text hbuild (by decide) htext
  have hboth : p.fieldNames e = ["a_b", "a_b"] := by decide +kernel
  rw [hboth] at hnodup
  exact absurd hnodup (by decide)

end Tablewright.Artifact.ProtoFile

import Tablewright.Dialect.Builtin
import Tablewright.Proofs.Artifact.Acceptance
import Tablewright.Proofs.Entity.Build

/-! # Go identifiers in models and accessors

Models and accessors are both Go source, with one struct per entity and one name per field. A model
asks for both to be identifiers. Accessors ask for the name of the struct only, although their names
are those of the fields with at most some `X` in front.

* `Naming.isGoIdentifier_escaped`: such names are identifiers if the names of the fields are.
* `models_accept_iff_accessors_accept`: so what a model accepts, accessors accept too, and the other way
  round if the fields have identifiers for names.
* `accessors_accept_more`: without that it is not so. -/

namespace Tablewright

/-! ## Identifiers with an `X` in front -/

namespace Naming

/-- No word that Go keeps for itself starts with `X`. -/
theorem head_goKeywords : ∀ word ∈ goKeywords, word.toList.head? ≠ some 'X' := by
  decide +kernel

/-- An `X` in front of an identifier gives an identifier. -/
theorem isGoIdentifier_X {s : String} (h : isGoIdentifier s = true) :
    isGoIdentifier ("X" ++ s) = true := by
  have hchars : ("X" ++ s).toList = 'X' :: s.toList := by
    simp
  have hkeyword : "X" ++ s ∉ goKeywords := fun hmem =>
    head_goKeywords _ hmem (by rw [hchars]; rfl)
  cases hs : s.toList with
  | nil => simp [isGoIdentifier, hs, startsThen] at h
  | cons c cs =>
      simp only [isGoIdentifier, hs, startsThen, Bool.and_eq_true, Bool.or_eq_true] at h
      obtain ⟨⟨hc, hcs⟩, -⟩ := h
      -- the old first character may stand inside an identifier too
      have hinside : (Unicode.isAlphanumeric c || c == '_') = true := by
        rw [Unicode.isAlphanumeric]
        rcases hc with hc | hc <;> simp [hc]
      have hfirst : Unicode.isAlphabetic 'X' = true :=
        Unicode.CharClass.holds_of_isAscii rfl
      simp only [isGoIdentifier, hchars, hs, startsThen, List.all_cons, hinside, hcs, hfirst]
      simpa using hkeyword

/-- Any number of `X` in front of an identifier gives an identifier. -/
theorem isGoIdentifier_escaped {s : String} (h : isGoIdentifier s = true) (n : Nat) :
    isGoIdentifier (FieldNames.escaped s n) = true := by
  induction n with
  | zero => rwa [FieldNames.escaped_zero]
  | succ n ih =>
      rw [FieldNames.escaped_succ]
      exact isGoIdentifier_X ih

end Naming

/-- Every name that a field gets is one that a field came with, with some `X` in front. -/
theorem FieldNames.exists_escaped_of_mem_assign {born taken names : List String} {new : String}
    (h : new ∈ assign born taken names) : ∃ old ∈ names, ∃ n, new = escaped old n := by
  induction names generalizing taken with
  | nil => contradiction
  | cons name names ih =>
      rw [assign] at h
      rcases List.mem_cons.mp h with rfl | h
      · exact ⟨name, List.mem_cons_self, _, rfl⟩
      · obtain ⟨old, hold, hnew⟩ := ih h
        exact ⟨old, List.mem_cons_of_mem _ hold, hnew⟩

/-- Resolving names keeps identifiers. -/
theorem Entity.isGoIdentifier_of_mem_resolveNames {e : Entity} {escapes : List String}
    (h : ∀ n ∈ e.goNames, Naming.isGoIdentifier n = true) :
    ∀ n ∈ (e.resolveNames escapes).goNames, Naming.isGoIdentifier n = true := by
  intro n hn
  rw [goNames_resolveNames] at hn
  obtain ⟨old, hold, k, rfl⟩ := FieldNames.exists_escaped_of_mem_assign hn
  exact Naming.isGoIdentifier_escaped (h old hold) k

/-! ## What models and accessors accept -/

namespace Artifact

/-- A model accepts an entity if the names of its struct and of its fields are identifiers. -/
theorem GoModel.exists_emit_iff (m : GoModel) (e : Entity) :
    (∃ t, m.emit [e] = .ok t) ↔
      Naming.isGoIdentifier e.structName = true ∧
        ∀ n ∈ e.goNames, Naming.isGoIdentifier n = true := by
  have hrefusal : (∃ t, GoModel.entity e = .ok t) ↔ refusal? e = none := by
    rw [entity]
    cases refusal? e <;> simp
  refine ((Backend.model m).exists_emit_singleton_iff e).trans (hrefusal.trans ?_)
  rw [refusal?]
  cases hstruct : Naming.isGoIdentifier e.structName with
  | false => simp
  | true => simp [Entity.goNames]

/-- Accessors are made for an entity if the name of its struct is an identifier. -/
theorem Accessors.exists_emit_iff (a : Accessors) (e : Entity) :
    (∃ t, a.emit [e] = .ok t) ↔ Naming.isGoIdentifier e.structName = true := by
  refine ((Backend.rapier a).exists_emit_singleton_iff e).trans ?_
  show (∃ t, a.entity e = .ok t) ↔ _
  rw [entity]
  cases Naming.isGoIdentifier e.structName <;> simp

/-- The names of the accessors of an entity. -/
def Accessors.names (e : Entity) : List String :=
  (e.resolveNames nativeMembers).goNames

/-- **A model accepts an entity if accessors can be made for it and its fields have identifiers for
names**, and then all accessors have identifiers for names. -/
theorem models_accept_iff_accessors_accept (g : GoModel) (a : Accessors) (e : Entity) :
    ((∃ t, g.emit [e] = .ok t) ↔
      (∃ t, a.emit [e] = .ok t) ∧ ∀ n ∈ e.goNames, Naming.isGoIdentifier n = true) ∧
    ((∃ t, g.emit [e] = .ok t) → ∀ n ∈ Accessors.names e, Naming.isGoIdentifier n = true) := by
  rw [GoModel.exists_emit_iff, Accessors.exists_emit_iff]
  exact ⟨Iff.rfl, fun h => Entity.isGoIdentifier_of_mem_resolveNames h.2⟩

/-- The model of a table `alias` with a column `as` is accepted, so its accessors are, of which the one
for `as` is called `XAs`. -/
theorem models_accept_alias :
    let t : Table :=
      { (default : Table) with
        name := "alias", columns := [{ (default : Column) with name := "as", rawType := "int" }] }
    let e : Entity := .ofKinds .standard t [.int32]
    (∃ text, (default : GoModel).emit [e] = .ok text) ∧ Accessors.names e = ["XAs"] ∧
      (∃ text, (default : Accessors).emit [e] = .ok text) ∧
      ∀ n ∈ Accessors.names e, Naming.isGoIdentifier n = true := by
  intro t e
  have hmodel : ∃ text, (default : GoModel).emit [e] = .ok text := by
    rw [GoModel.exists_emit_iff]
    decide +kernel
  obtain ⟨hiff, hnames⟩ := models_accept_iff_accessors_accept default default e
  exact ⟨hmodel, by decide +kernel, (hiff.mp hmodel).1, hnames hmodel⟩

/-- **Accessors are made for more**: for the entity of a table `user` with a column `2fa` there are
accessors, one of them called `2fa`, which is no identifier, and there is no model. -/
theorem accessors_accept_more :
    ¬ ∀ (m : Dialect.Mapper) (o : Options) (t : Table) (e : Entity), Entity.build m o t = .ok e →
      ∀ (a : Accessors) (g : GoModel),
        ((∃ text, a.emit [e] = .ok text) ↔ ∃ text, g.emit [e] = .ok text) ∧
          ((∃ text, a.emit [e] = .ok text) →
            ∀ n ∈ Accessors.names e, Naming.isGoIdentifier n = true) := by
  intro hclaim
  let t : Table :=
    { (default : Table) with
      name := "user", columns := [{ (default : Column) with name := "2fa", rawType := "int" }] }
  have hbuild : Entity.build Dialect.mysql .standard t =
      .ok (Entity.ofKinds .standard t [.int32]) := by
    rfl
  obtain ⟨hiff, hnames⟩ := hclaim _ _ t _ hbuild default default
  have haccept : ∃ text, (default : Accessors).emit [Entity.ofKinds .standard t [.int32]] =
      .ok text := by
    rw [Accessors.exists_emit_iff]
    decide +kernel
  have hmem : "2fa" ∈ Accessors.names (Entity.ofKinds .standard t [.int32]) := by
    decide +kernel
  have hno := hnames haccept "2fa" hmem
  exact absurd hno (by decide +kernel)

end Artifact

end Tablewright

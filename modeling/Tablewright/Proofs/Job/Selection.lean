import Tablewright.Job.Selection
import Tablewright.Proofs.Pattern.Whole

/-! # What a selection keeps

A selection has its patterns put together by a library before it looks at the tables. So it either fails
before anything has changed or leaves out some tables and nothing else. What it leaves out does not depend
on the other tables, so selections in a row leave out what one of them does. All this holds for any library
to rely on, and for any notion of matching in full that the wrapped patterns keep to.

* `Selection.apply_eq`: a selection as a filter.
* `Selection.outcome_narrow`: a selection as a step that changes a database in place.
* `Selection.keeps_iff`: the tables that are kept.
* `Selection.apply_selects`: when a selection fails, which tables it keeps otherwise, and what comes of
  two of them.
* `Selection.patterns_refused_together`: patterns that compile each on its own may not compile together. -/

namespace Tablewright

open Pattern (Compiles FoundIn InvalidPattern LawfulLibrary Library MatchesInFull Wraps engine whole)

namespace Selection

/-! ## Selections as filters -/

/-- Is a table kept, given what the set of the patterns reports of a name? -/
def keeps (s : Selection) (found : List Char → List Nat) (t : Table) : Bool :=
  s.asks t.name && (found t.name.toList).isEmpty

/-- The database with those of its tables that pass a test. -/
def filtered (keep : Table → Bool) (d : Database) : Database :=
  { d with tables := d.tables.filter keep }

/-- Two tests, one after the other, are one test. -/
theorem filtered_filtered (keep keep' : Table → Bool) (d : Database) :
    filtered keep' (filtered keep d) = filtered (fun t => keep t && keep' t) d := by
  simp only [filtered, List.filter_filter, Bool.and_comm]

section Filters

variable [Library]

/-- **A selection puts its patterns together and then filters the tables.** -/
theorem apply_eq (s : Selection) (d : Database) :
    s.apply d =
      (Library.compile (s.exclude.map whole)).map fun found => filtered (s.keeps found) d := by
  rw [apply]
  cases Library.compile (s.exclude.map whole) with
  | error e => rfl
  | ok found => rfl

/-- A selection once more changes nothing. -/
theorem apply_apply (s : Selection) (d : Database) : s.apply d >>= s.apply = s.apply d := by
  have happly := funext s.apply_eq
  rw [happly]
  cases Library.compile (s.exclude.map whole) with
  | error e => rfl
  | ok found =>
      show Except.ok (filtered _ (filtered _ d)) = Except.ok (filtered _ d)
      rw [filtered_filtered]
      simp only [Bool.and_self]

/-- Two selections that succeed may be swapped. -/
theorem apply_comm (s s' : Selection) (d d' : Database) :
    s.apply d >>= s'.apply = .ok d' ↔ s'.apply d >>= s.apply = .ok d' := by
  rw [funext s.apply_eq, funext s'.apply_eq]
  cases Library.compile (s.exclude.map whole) with
  | error e =>
      -- neither order comes to an end
      cases Library.compile (s'.exclude.map whole) with
      | error e' => exact iff_of_false (fun h => by contradiction) (fun h => by contradiction)
      | ok found' => exact iff_of_false (fun h => by contradiction) (fun h => by contradiction)
  | ok found =>
      cases Library.compile (s'.exclude.map whole) with
      | error e' => exact iff_of_false (fun h => by contradiction) (fun h => by contradiction)
      | ok found' =>
          show Except.ok (filtered _ (filtered _ d)) = _ ↔ Except.ok (filtered _ (filtered _ d)) = _
          rw [filtered_filtered, filtered_filtered]
          simp only [Bool.and_comm]

/-! ## Selections as steps -/

/-- The selection as a step on a database: it puts the patterns together, which may fail, and then leaves
out the tables that are not kept. -/
def narrow (s : Selection) : ExceptT InvalidPattern (StateM Database) Unit := do
  let found ← Library.compile (s.exclude.map whole)
  modify (filtered (s.keeps found))

/-- What becomes of a step on a database: whether it fails, and the database behind it. -/
def outcome (step : ExceptT InvalidPattern (StateM Database) Unit) (d : Database) :
    Except InvalidPattern Unit × Database :=
  step.run.run d

/-- **The step and the selection are one**, and a step that fails leaves the database as it was. -/
theorem outcome_narrow (s : Selection) (d : Database) :
    outcome s.narrow d =
      match s.apply d with
      | .ok d' => (.ok (), d')
      | .error e => (.error e, d) := by
  rw [apply_eq, outcome, narrow]
  cases Library.compile (s.exclude.map whole) with
  | error e => rfl
  | ok found => rfl

end Filters

/-! ## The tables that are kept -/

/-- Is a name among those that are asked for, and matched in full by no pattern? -/
def Keeps (matchesInFull : String → List Char → Prop) (s : Selection) (name : String) : Prop :=
  (s.tables = [] ∨ name ∈ s.tables) ∧ ¬∃ p ∈ s.exclude, matchesInFull p name.toList

/-- Without names all tables are asked for. -/
theorem asks_iff {s : Selection} {name : String} :
    s.asks name = true ↔ s.tables = [] ∨ name ∈ s.tables := by
  rw [asks, Bool.or_eq_true, List.isEmpty_iff, List.contains_iff_mem]

section Lawful

variable [Library] [LawfulLibrary] {matchesInFull : String → List Char → Prop} {s : Selection}
  {found : List Char → List Nat}

/-- The set of the wrapped patterns reports something of a name if a pattern matches the name in full. -/
theorem found_ne_nil_iff (hwraps : ∀ p ∈ s.exclude, Wraps matchesInFull p)
    (h : Library.compile (s.exclude.map whole) = .ok found) {text : List Char} :
    found text ≠ [] ↔ ∃ p ∈ s.exclude, matchesInFull p text := by
  rw [Pattern.ne_nil_iff_exists_foundIn h]
  have hwhole (p : String) (hp : p ∈ s.exclude) : FoundIn (whole p) text ↔ matchesInFull p text :=
    (hwraps p hp).foundIn_iff (LawfulLibrary.compiles h _ (List.mem_map_of_mem hp)) text
  constructor
  · rintro ⟨w, hw, hfound⟩
    obtain ⟨p, hp, rfl⟩ := List.mem_map.mp hw
    exact ⟨p, hp, (hwhole p hp).mp hfound⟩
  · rintro ⟨p, hp, hmatch⟩
    exact ⟨whole p, List.mem_map_of_mem hp, (hwhole p hp).mpr hmatch⟩

/-- **The tables that are kept** are those that are asked for and not matched by a pattern. -/
theorem keeps_iff (hwraps : ∀ p ∈ s.exclude, Wraps matchesInFull p)
    (h : Library.compile (s.exclude.map whole) = .ok found) {t : Table} :
    s.keeps found t = true ↔ s.Keeps matchesInFull t.name := by
  rw [keeps, Bool.and_eq_true, asks_iff, List.isEmpty_iff, Keeps, ← found_ne_nil_iff hwraps h,
    ne_eq, not_not]

/-- When the wrapped patterns are taken together, each of the patterns compiles. -/
theorem compiles_of_compile_eq_ok (hwraps : ∀ p ∈ s.exclude, Wraps matchesInFull p)
    (h : Library.compile (s.exclude.map whole) = .ok found) : ∀ p ∈ s.exclude, Compiles p :=
  fun p hp => (hwraps p hp).compiles.mp (LawfulLibrary.compiles h _ (List.mem_map_of_mem hp))

end Lawful

/-! ## When a selection fails -/

/-- Does the library refuse the wrapped patterns when they are taken together? -/
def RefusedTogether [Library] (s : Selection) : Prop :=
  ∃ e, Library.compile (s.exclude.map whole) = .error e

/-- **What a selection does**, for any library to rely on and patterns that keep their meaning when they
are wrapped. If one of them does not compile, or the library refuses all of them together, it fails as the
library does and the database stays as it is. Otherwise exactly the tables that are asked for and matched
in full by no pattern are kept, in order. A second time it changes nothing, and two selections that succeed
may be swapped. -/
theorem apply_selects [Library] [LawfulLibrary] (matchesInFull : String → List Char → Prop)
    (s : Selection) (d : Database) (hwraps : ∀ p ∈ s.exclude, Wraps matchesInFull p) :
    ((∃ p ∈ s.exclude, ¬Compiles p) ∨ s.RefusedTogether →
      ∃ e, Library.compile (s.exclude.map whole) = .error e ∧ s.apply d = .error e ∧
        outcome s.narrow d = (.error e, d)) ∧
    ((∀ p ∈ s.exclude, Compiles p) ∧ ¬s.RefusedTogether →
      ∃ keep : Table → Bool, (∀ t, keep t = true ↔ s.Keeps matchesInFull t.name) ∧
        s.apply d = .ok { d with tables := d.tables.filter keep } ∧
        outcome s.narrow d = (.ok (), { d with tables := d.tables.filter keep })) ∧
    s.apply d >>= s.apply = s.apply d ∧
    ∀ (s' : Selection) (d' : Database),
      s.apply d >>= s'.apply = .ok d' ↔ s'.apply d >>= s.apply = .ok d' := by
  refine ⟨fun hfails => ?_, fun ⟨_, hnot⟩ => ?_, s.apply_apply d, fun s' d' => s.apply_comm s' d d'⟩
  · cases hcompile : Library.compile (s.exclude.map whole) with
    | error e =>
        have happly : s.apply d = .error e := by
          rw [apply_eq, hcompile]
          rfl
        exact ⟨e, rfl, happly, by rw [outcome_narrow, happly]⟩
    | ok found =>
        -- what the library takes together it takes one by one, so neither way to fail is left
        rcases hfails with ⟨p, hp, hnot⟩ | ⟨e, hrefused⟩
        · exact absurd (compiles_of_compile_eq_ok hwraps hcompile p hp) hnot
        · rw [hcompile] at hrefused
          contradiction
  · cases hcompile : Library.compile (s.exclude.map whole) with
    | error e => exact absurd ⟨e, hcompile⟩ hnot
    | ok found =>
        have happly : s.apply d = .ok (filtered (s.keeps found) d) := by
          rw [apply_eq, hcompile]
          rfl
        have hnarrow : outcome s.narrow d = (.ok (), filtered (s.keeps found) d) := by
          rw [outcome_narrow, happly]
        exact ⟨s.keeps found, fun t => keeps_iff hwraps hcompile, happly, hnarrow⟩

/-- A choice between two names is a selection; next to a pattern that does not compile nothing is left
out. -/
theorem apply_selects_choice :
    let database (names : List String) : Database :=
      ⟨"app", names.map fun name => { (default : Table) with name := name }⟩
    let d := database ["user", "user_log", "log", "log_user"]
    let s : Selection := ⟨["log_user", "log", "user"], ["user_.*|log"]⟩
    let s' : Selection := ⟨[], ["user_.*|log", "("]⟩
    (∀ p ∈ s.exclude ++ s'.exclude, Wraps MatchesInFull p) ∧
      (∃ keep : Table → Bool, (∀ t, keep t = true ↔ s.Keeps MatchesInFull t.name) ∧
        s.apply d = .ok { d with tables := d.tables.filter keep }) ∧
      ∃ e, s'.apply d = .error e ∧ outcome s'.narrow d = (.error e, d) := by
  intro database d s s'
  have hcompiles : Compiles "user_.*|log" := Pattern.compiles_of_isLight (by decide +kernel)
  have hwhole : Compiles (whole "user_.*|log") := Pattern.compiles_of_isLight (by decide +kernel)
  have hchoice : Wraps MatchesInFull "user_.*|log" :=
    Pattern.wraps_of_read (by decide +kernel) (iff_of_true hwhole hcompiles)
  have hopen : Wraps MatchesInFull "(" :=
    Pattern.wraps_of_read (by decide +kernel) (by decide +kernel)
  have hwraps : ∀ p ∈ s.exclude, Wraps MatchesInFull p := List.forall_mem_singleton.mpr hchoice
  have hwraps' : ∀ p ∈ s'.exclude, Wraps MatchesInFull p :=
    List.forall_mem_cons.mpr ⟨hchoice, List.forall_mem_singleton.mpr hopen⟩
  refine ⟨List.forall_mem_append.mpr ⟨hwraps, hwraps'⟩, ?_, ?_⟩
  · -- the only pattern compiles when it is wrapped
    obtain ⟨found, hfound⟩ := exists_eq_ok_of_isOk hwhole
    have hnot : ¬s.RefusedTogether := by
      rintro ⟨e, hrefused⟩
      have hboth : Except.ok found = Except.error e := hfound.symm.trans hrefused
      contradiction
    obtain ⟨keep, hkeep, happly, -⟩ :=
      (apply_selects MatchesInFull s d hwraps).2.1 ⟨List.forall_mem_singleton.mpr hcompiles, hnot⟩
    exact ⟨keep, hkeep, happly⟩
  · obtain ⟨e, -, hfails⟩ :=
      (apply_selects MatchesInFull s' d hwraps').1 (.inl ⟨"(", by decide, by decide +kernel⟩)
    exact ⟨e, hfails⟩

/-- **Patterns may be refused together**: two repetitions, each of which the engine takes on its own and
which keep their meaning when they are wrapped. -/
theorem patterns_refused_together :
    ¬∀ [Library] [LawfulLibrary] (matchesInFull : String → List Char → Prop) (s : Selection)
        (d : Database), (∀ p ∈ s.exclude, Wraps matchesInFull p) → (∀ p ∈ s.exclude, Compiles p) →
      ∃ keep : Table → Bool, (∀ t, keep t = true ↔ s.Keeps matchesInFull t.name) ∧
        s.apply d = .ok { d with tables := d.tables.filter keep } := by
  intro hclaim
  let s : Selection := ⟨[], ["a\x7b0,100000\x7d", "b\x7b0,100000\x7d"]⟩
  let d : Database := ⟨"app", [{ (default : Table) with name := "x" }]⟩
  have hwraps : ∀ p ∈ s.exclude, Wraps MatchesInFull p := by
    refine List.forall_mem_cons.mpr ⟨?_, List.forall_mem_singleton.mpr ?_⟩
    · exact Pattern.wraps_of_read (by decide +kernel) (by decide +kernel)
    · exact Pattern.wraps_of_read (by decide +kernel) (by decide +kernel)
  obtain ⟨keep, -, happly⟩ := hclaim MatchesInFull s d hwraps (by decide +kernel)
  have hrefused : (s.apply d).isOk = false := by decide +kernel
  rw [happly] at hrefused
  contradiction

end Selection

end Tablewright

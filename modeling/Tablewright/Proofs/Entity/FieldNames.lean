import Mathlib.Data.List.Nodup
import Tablewright.Entity.FieldNames

/-! # Resolving the names of struct fields

`Entity.resolveNames` gives the fields of an entity different names that are not reserved. The search
for the name of one field is related to the loop it stands for (`Search`: stop at a free name, go on
with one more `X` otherwise), and the fields of an entity to one pass of such searches (`Pass`).

* `exists_freshName_eq`: the search ends, at the first candidate that is free. There are more
  candidates than names in the way, and all candidates differ.
* `notMem_freshName_cons_iff`: what one field takes away from the fields behind it is its own old
  name, never another name that a field came with. This step carries the induction over the fields.
* `Entity.resolveNames_spec`: the names that a whole run gives, and what it leaves alone. -/

namespace Tablewright

namespace FieldNames

/-! ## Candidates -/

@[simp] theorem escaped_zero (name : String) : escaped name 0 = name := by
  rw [← String.toList_inj]
  simp [escaped]

/-- The next candidate has one more `X` in front. -/
theorem escaped_succ (name : String) (n : Nat) :
    escaped name (n + 1) = "X" ++ escaped name n := by
  rw [← String.toList_inj]
  simp [escaped, List.replicate_succ]

/-- The candidates for a name grow by one character at a time. -/
theorem length_escaped (name : String) (n : Nat) :
    (escaped name n).length = n + name.length := by
  rw [escaped, String.length_append, String.length_ofList, List.length_replicate]

/-- Different numbers of `X` give different candidates. -/
theorem escaped_injective (name : String) : Function.Injective (escaped name) := by
  intro m n h
  have hlen := congrArg String.length h
  rw [length_escaped, length_escaped] at hlen
  omega

/-- A candidate is free if it is not taken and is the name itself or no other field's own name. -/
theorem isFree_iff {taken born : List String} {name candidate : String} :
    isFree taken born name candidate = true ↔
      candidate ∉ taken ∧ (candidate = name ∨ candidate ∉ born) := by
  simp [isFree]

/-! ## The search for a name -/

/-- A run of the search for the name of a field that came with `name`: a free candidate is the
result, and behind one that is not free comes the candidate with one more `X`. -/
inductive Search (taken born : List String) (name : String) : String → String → Prop
  | stop {c : String} (free : isFree taken born name c = true) : Search taken born name c c
  | next {c result : String} (busy : isFree taken born name c = false)
      (rest : Search taken born name ("X" ++ c) result) : Search taken born name c result

/-- **One of the candidates is free.** The candidates that are not free are different names among
those that are in the way, so there are no more of them than of these. -/
theorem exists_isFree (taken born : List String) (name : String) :
    ∃ n < taken.length + born.length + 1, isFree taken born name (escaped name n) = true := by
  -- otherwise all of the first `count` candidates would be among the names in the way
  by_contra hnone
  push Not at hnone
  set count := taken.length + born.length + 1 with hcount
  have hblocked : (List.range count).map (escaped name) ⊆ taken ++ born := by
    intro c hc
    obtain ⟨n, hn, rfl⟩ := List.mem_map.mp hc
    by_contra hout
    rw [List.mem_append, not_or] at hout
    exact hnone n (List.mem_range.mp hn) (isFree_iff.mpr ⟨hout.1, Or.inr hout.2⟩)
  have hnodup : ((List.range count).map (escaped name)).Nodup :=
    List.nodup_range.map (escaped_injective name)
  have hle := hnodup.length_le_of_subset hblocked
  rw [List.length_map, List.length_range, List.length_append] at hle
  omega

/-- **The search ends**, at the candidate with the fewest `X` that is free. -/
theorem exists_freshName_eq (taken born : List String) (name : String) :
    ∃ n, freshName taken born name = escaped name n ∧
      isFree taken born name (escaped name n) = true ∧
      ∀ m < n, isFree taken born name (escaped name m) = false := by
  obtain ⟨k, hk, hfree⟩ := exists_isFree taken born name
  have hfound : ((List.range (taken.length + born.length + 1)).find? fun n =>
      isFree taken born name (escaped name n)).isSome := by
    rw [List.find?_isSome]
    exact ⟨k, List.mem_range.mpr hk, hfree⟩
  obtain ⟨n, hn⟩ := Option.isSome_iff_exists.mp hfound
  refine ⟨n, ?_, ?_⟩
  · rw [freshName, hn, Option.getD_some]
  · obtain ⟨hfree, -, hbusy⟩ := List.find?_range_eq_some.mp hn
    exact ⟨hfree, fun m hm => by simpa using hbusy m hm⟩

/-- The search runs through the candidates that are not free. -/
theorem search_escaped {taken born : List String} {name : String} {n : Nat}
    (hfree : isFree taken born name (escaped name n) = true)
    (hbusy : ∀ m < n, isFree taken born name (escaped name m) = false) (d m : Nat)
    (hm : m + d = n) : Search taken born name (escaped name m) (escaped name n) := by
  -- `d` is how many candidates still stand in front of the free one
  induction d generalizing m with
  | zero =>
      obtain rfl : m = n := hm
      exact .stop hfree
  | succ d ih =>
      refine .next (hbusy m (by omega)) ?_
      rw [← escaped_succ]
      exact ih (m + 1) (by omega)

/-- The name that a field gets is the result of a search that starts at its old name. -/
theorem search_freshName (taken born : List String) (name : String) :
    Search taken born name name (freshName taken born name) := by
  obtain ⟨n, heq, hfree, hbusy⟩ := exists_freshName_eq taken born name
  rw [heq]
  simpa using search_escaped hfree hbusy n 0 (Nat.zero_add n)

/-! ## The name of one field -/

/-- The name that is picked is free. -/
theorem isFree_freshName (taken born : List String) (name : String) :
    isFree taken born name (freshName taken born name) = true := by
  obtain ⟨n, heq, hfree, -⟩ := exists_freshName_eq taken born name
  rw [heq]
  exact hfree

/-- The name that a field gets was not taken. -/
theorem freshName_notMem_taken (taken born : List String) (name : String) :
    freshName taken born name ∉ taken :=
  (isFree_iff.mp (isFree_freshName taken born name)).1

/-- A field that is renamed does not get a name that a field came with. -/
theorem freshName_notMem_born {taken born : List String} {name : String}
    (h : freshName taken born name ≠ name) : freshName taken born name ∉ born :=
  (isFree_iff.mp (isFree_freshName taken born name)).2.resolve_left h

/-- A field keeps its name exactly when that is not taken. -/
theorem freshName_eq_self_iff {taken born : List String} {name : String} :
    freshName taken born name = name ↔ name ∉ taken := by
  constructor
  · intro h
    rw [← h]
    exact freshName_notMem_taken taken born name
  · intro h
    obtain ⟨n, heq, -, hbusy⟩ := exists_freshName_eq taken born name
    obtain rfl | hn := Nat.eq_zero_or_pos n
    · rw [heq, escaped_zero]
    · -- the old name itself would have been passed over although it is free
      have hzero := hbusy 0 hn
      rw [escaped_zero, isFree_iff.mpr ⟨h, Or.inl rfl⟩] at hzero
      contradiction

/-- **What a field takes away from the fields behind it.** Of the names that fields came with, the
field's own old name is the only one that may no longer be free behind it: a field that is renamed
takes none of them. -/
theorem notMem_freshName_cons_iff {taken born : List String} {name other : String}
    (hother : other ∈ born) :
    other ∉ freshName taken born name :: taken ↔ other ∉ taken ∧ other ≠ name := by
  rw [List.mem_cons, not_or, and_comm]
  refine and_congr_right fun htaken => ?_
  by_cases hkept : freshName taken born name = name
  · -- the field takes its old name, and nothing else
    rw [hkept]
  · -- the field is renamed, because its old name was taken already
    have hne : other ≠ freshName taken born name := by
      rintro rfl
      exact freshName_notMem_born hkept hother
    have hname : other ≠ name := by
      rintro rfl
      exact hkept (freshName_eq_self_iff.mpr htaken)
    exact iff_of_true hne hname

/-! ## The names of all fields -/

/-- A run over the names that fields came with, in order: each gets the result of a search, which is
taken for the fields behind it. -/
inductive Pass (born : List String) : List String → List String → List String → Prop
  | nil {taken : List String} : Pass born taken [] []
  | cons {taken : List String} {name fresh : String} {names results : List String}
      (head : Search taken born name name fresh) (tail : Pass born (fresh :: taken) names results) :
      Pass born taken (name :: names) (fresh :: results)

/-- The run over all names ends with the names that `assign` gives. -/
theorem pass_assign (born taken names : List String) :
    Pass born taken names (assign born taken names) := by
  induction names generalizing taken with
  | nil => exact .nil
  | cons name names ih => exact .cons (search_freshName taken born name) (ih _)

/-- Each field is assigned a name. -/
@[simp] theorem length_assign (born taken names : List String) :
    (assign born taken names).length = names.length := by
  induction names generalizing taken with
  | nil => rfl
  | cons name names ih => rw [assign, List.length_cons, List.length_cons, ih]

/-- No name that a field gets was taken before. -/
theorem notMem_taken_of_mem_assign {born taken names : List String} {n : String}
    (h : n ∈ assign born taken names) : n ∉ taken := by
  induction names generalizing taken with
  | nil => simp [assign] at h
  | cons name names ih =>
      rw [assign] at h
      rcases List.mem_cons.mp h with rfl | h
      · exact freshName_notMem_taken taken born name
      · intro htaken
        exact ih h (List.mem_cons_of_mem _ htaken)

/-- The names that fields get are different. -/
theorem nodup_assign (born taken names : List String) : (assign born taken names).Nodup := by
  induction names generalizing taken with
  | nil => exact List.nodup_nil
  | cons name names ih =>
      rw [assign]
      refine List.nodup_cons.mpr ⟨?_, ih _⟩
      intro h
      exact notMem_taken_of_mem_assign h List.mem_cons_self

/-- **Each name on its own.** The name of the field at a place is its old name with some `X` in front;
it is the old name exactly when that was not taken and no earlier field came with it; and if it is
not, then no field came with it. -/
theorem assign_getElem? {born taken names : List String} {i : Nat} {old new : String}
    (hborn : ∀ n ∈ names, n ∈ born) (hold : names[i]? = some old)
    (hnew : (assign born taken names)[i]? = some new) :
    (∃ n, new = escaped old n) ∧ (new = old ↔ old ∉ taken ∧ old ∉ names.take i) ∧
      (new ≠ old → new ∉ born) := by
  induction names generalizing taken i with
  | nil => simp at hold
  | cons name names ih =>
      rw [assign] at hnew
      cases i with
      | zero =>
          obtain rfl : name = old := by simpa using hold
          obtain rfl : freshName taken born name = new := by simpa using hnew
          obtain ⟨n, heq, -, -⟩ := exists_freshName_eq taken born name
          refine ⟨⟨n, heq⟩, ?_, freshName_notMem_born⟩
          rw [freshName_eq_self_iff]
          simp
      | succ i =>
          rw [List.getElem?_cons_succ] at hold hnew
          have hmem : old ∈ born := hborn old (List.mem_cons_of_mem _ (List.mem_of_getElem? hold))
          obtain ⟨hfront, hkept, hrenamed⟩ :=
            ih (fun n hn => hborn n (List.mem_cons_of_mem _ hn)) hold hnew
          refine ⟨hfront, ?_, hrenamed⟩
          -- the first field has taken its old name away, and no other name that a field came with
          rw [hkept, notMem_freshName_cons_iff hmem, List.take_succ_cons, List.mem_cons, not_or,
            and_assoc]

/-- **A name that some field came with, and that was not taken, is kept by the first field with it.** -/
theorem mem_assign_of_mem {born taken names : List String} {n : String} (hborn : n ∈ born)
    (htaken : n ∉ taken) (h : n ∈ names) : n ∈ assign born taken names := by
  induction names generalizing taken with
  | nil => contradiction
  | cons name names ih =>
      rw [assign]
      by_cases hname : n = name
      · subst hname
        rw [freshName_eq_self_iff.mpr htaken]
        exact List.mem_cons_self
      · -- a field that came with another name does not take this one away
        have hfree : n ∉ freshName taken born name :: taken :=
          (notMem_freshName_cons_iff hborn).mpr ⟨htaken, hname⟩
        exact List.mem_cons_of_mem _ (ih hfree (List.mem_of_ne_of_mem hname h))

/-- A field keeps its name exactly when that was not taken and no earlier field has it now. -/
theorem assign_getElem?_eq_iff {born taken names : List String} {i : Nat} {old new : String}
    (hold : names[i]? = some old) (hnew : (assign born taken names)[i]? = some new) :
    new = old ↔ old ∉ taken ∧ old ∉ (assign born taken names).take i := by
  induction names generalizing taken i with
  | nil => simp at hold
  | cons name names ih =>
      rw [assign] at hnew ⊢
      cases i with
      | zero =>
          obtain rfl : name = old := by simpa using hold
          obtain rfl : freshName taken born name = new := by simpa using hnew
          rw [freshName_eq_self_iff]
          simp
      | succ i =>
          rw [List.getElem?_cons_succ] at hold hnew
          -- the name of the first field is taken now, and it is the first of those given so far
          rw [ih hold hnew, List.take_succ_cons, List.mem_cons, List.mem_cons, not_or, not_or,
            and_right_comm, and_comm]

/-- Names that are different and not taken are all kept. -/
theorem assign_eq_self {born taken names : List String} (hnodup : names.Nodup)
    (htaken : ∀ n ∈ names, n ∉ taken) : assign born taken names = names := by
  induction names generalizing taken with
  | nil => rfl
  | cons name names ih =>
      obtain ⟨hname, hnodup⟩ := List.nodup_cons.mp hnodup
      have hkept : freshName taken born name = name :=
        freshName_eq_self_iff.mpr (htaken name List.mem_cons_self)
      rw [assign, hkept, ih hnodup]
      intro n hn
      rw [List.mem_cons, not_or]
      refine ⟨?_, htaken n (List.mem_cons_of_mem _ hn)⟩
      rintro rfl
      exact hname hn

end FieldNames

/-! ## The fields of an entity -/

namespace Entity

/-- `TableName` is the only reserved name beside the escape list. -/
theorem notMem_reserved_append_iff {escapes : List String} {n : String} :
    n ∉ FieldNames.reserved ++ escapes ↔ n ≠ "TableName" ∧ n ∉ escapes := by
  rw [List.mem_append, not_or, FieldNames.reserved, List.mem_singleton]

/-- The names of the struct fields of an entity, in order. -/
def goNames (e : Entity) : List String :=
  e.fields.map Field.goName

/-- The names of a resolved entity are the resolved names. -/
@[simp] theorem goNames_resolveNames (e : Entity) (escapes : List String) :
    (e.resolveNames escapes).goNames = FieldNames.resolved escapes e.goNames := by
  rw [goNames, resolveNames, List.map_zipWith]
  refine List.ext_getElem ?_ fun i h₁ h₂ => ?_
  · simp [goNames, FieldNames.resolved]
  · simp [goNames, Field.named]

/-- Resolving names changes nothing about a field but its name. -/
theorem map_named_resolveNames (e : Entity) (escapes : List String) (name : String) :
    (e.resolveNames escapes).fields.map (·.named name) = e.fields.map (·.named name) := by
  rw [resolveNames, List.map_zipWith]
  refine List.ext_getElem ?_ fun i h₁ h₂ => ?_
  · simp [FieldNames.resolved]
  · simp [Field.named]

/-- What does not depend on the name of a field is not changed by resolving names. -/
theorem map_resolveNames {α : Type} {f : Field → α} (hf : ∀ x name, f (x.named name) = f x)
    (e : Entity) (escapes : List String) :
    (e.resolveNames escapes).fields.map f = e.fields.map f := by
  have hnamed : f = f ∘ fun x => x.named "" := by
    funext x
    exact (hf x "").symm
  rw [hnamed, ← List.map_map, ← List.map_map, map_named_resolveNames]

/-- An entity whose fields have different names that are not reserved stays as it is. -/
theorem resolveNames_eq_self {e : Entity} {escapes : List String} (hnodup : e.goNames.Nodup)
    (hfree : ∀ n ∈ e.goNames, n ∉ FieldNames.reserved ++ escapes) :
    e.resolveNames escapes = e := by
  have hkept : FieldNames.resolved escapes e.goNames = e.goNames :=
    FieldNames.assign_eq_self hnodup hfree
  rw [resolveNames]
  change { e with fields := List.zipWith Field.named e.fields (FieldNames.resolved escapes e.goNames) }
    = e
  rw [hkept, goNames, List.zipWith_map_right, List.zipWith_self]
  simp [Field.named]

/-- **Resolving the names of an entity's fields.** The searches for the names all end; the names are
different, and none is reserved. A name is the old one with some `X` in front. It is the old one
exactly when that is not reserved and no earlier field came with it (or, which is the same, has it
now), and otherwise it is no name that a field came with. Nothing but names changes, and resolving
once more changes nothing. -/
theorem resolveNames_spec (e : Entity) (escapes : List String) :
    FieldNames.Pass e.goNames (FieldNames.reserved ++ escapes) e.goNames
        (e.resolveNames escapes).goNames ∧
      (e.resolveNames escapes).goNames.Nodup ∧
      (∀ n ∈ (e.resolveNames escapes).goNames, n ≠ "TableName" ∧ n ∉ escapes) ∧
      (∀ (i : Nat) (old new : String), e.goNames[i]? = some old →
        (e.resolveNames escapes).goNames[i]? = some new →
          (∃ n, new = FieldNames.escaped old n) ∧
          (new = old ↔ (old ≠ "TableName" ∧ old ∉ escapes) ∧ old ∉ e.goNames.take i) ∧
          (new = old ↔
            (old ≠ "TableName" ∧ old ∉ escapes) ∧ old ∉ (e.resolveNames escapes).goNames.take i) ∧
          (new ≠ old → new ∉ e.goNames)) ∧
      (∀ name, (e.resolveNames escapes).fields.map (·.named name) = e.fields.map (·.named name)) ∧
      e.resolveNames escapes = { e with fields := (e.resolveNames escapes).fields } ∧
      (e.resolveNames escapes).resolveNames escapes = e.resolveNames escapes := by
  have hnodup : (e.resolveNames escapes).goNames.Nodup := by
    rw [goNames_resolveNames]
    exact FieldNames.nodup_assign _ _ _
  have hfree : ∀ n ∈ (e.resolveNames escapes).goNames, n ∉ FieldNames.reserved ++ escapes := by
    intro n hn
    rw [goNames_resolveNames] at hn
    exact FieldNames.notMem_taken_of_mem_assign hn
  refine ⟨?_, hnodup, ?_, ?_, map_named_resolveNames e escapes, rfl,
    resolveNames_eq_self hnodup hfree⟩
  · rw [goNames_resolveNames]
    exact FieldNames.pass_assign _ _ _
  · intro n hn
    exact notMem_reserved_append_iff.mp (hfree n hn)
  · -- `born` is the list of names itself, so each of them is in it
    intro i old new hold hnew
    rw [goNames_resolveNames] at hnew ⊢
    obtain ⟨hfront, hkept, hrenamed⟩ :=
      FieldNames.assign_getElem? (fun n hn => hn) hold hnew
    rw [← notMem_reserved_append_iff]
    exact ⟨hfront, hkept, FieldNames.assign_getElem?_eq_iff hold hnew, hrenamed⟩

/-- Behind a field `A` and in front of a field `XA`, with `XXA` reserved, a second `A` becomes
`XXXA`. -/
theorem resolveNames_chain :
    let e : Entity :=
      { (default : Entity) with fields := ["A", "A", "XA"].map (default : Field).named }
    e.goNames[1]? = some "A" ∧ (e.resolveNames ["XXA"]).goNames[1]? = some "XXXA" ∧
      "XXXA" ∉ e.goNames := by
  intro e
  have hold : e.goNames[1]? = some "A" := by decide
  have hnew : (e.resolveNames ["XXA"]).goNames[1]? = some "XXXA" := by decide
  have hnames := (resolveNames_spec e ["XXA"]).2.2.2.1 1 "A" "XXXA" hold hnew
  exact ⟨hold, hnew, hnames.2.2.2 (by decide)⟩

end Entity

end Tablewright

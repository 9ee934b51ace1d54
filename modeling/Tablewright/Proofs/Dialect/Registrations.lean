import Tablewright.Dialect.Registry
import Tablewright.Proofs.Dict
import Tablewright.Proofs.Text.ByteOrder

/-! # Registering mappers

A registry is built up by registrations, one after the other, and each of them is answered: a name that
is taken is refused and nothing changes, a new one is added (`Registry.answer_of_mem`,
`Registry.answer_of_notMem`). What a name leads to is settled by the first registration under it, as a
step looks at the later one only if there is no earlier one (`Registry.get?_answer`). So it stays settled
whatever is registered afterwards (`Registry.get?_after`), and of the registrations that succeed no two
have one name.

* `Registry.get_eq_ok_iff`, `Registry.get_eq_error_iff`: what a registry answers to a name.
* `Registry.registrations_settled`: the names and the mappers after any registrations. -/

namespace Tablewright.Dialect.Registry

/-- A request to register a mapper under a name. -/
abbrev Registration := String × Mapper

variable {r : Registry} {c : Registration} {name : String}

/-! ## One registration -/

/-- Registering as a step on a registry that is kept: a name that is taken is refused, and under a new
one the mapper is put in. -/
def enter (c : Registration) : ExceptT RegistryError (StateM Registry) Unit := do
  if (← getThe Registry).mappers.contains c.1 then throw (.duplicate c.1)
  modify fun r => ⟨r.mappers.insert c.1 c.2⟩

/-- What is answered to a registration, and the registry behind it. -/
def answer (r : Registry) (c : Registration) : Except RegistryError Unit × Registry :=
  (enter c).run.run r

/-- The dictionary of mappers has exactly the registered names. -/
theorem contains_eq_true_iff : r.mappers.contains name = true ↔ name ∈ r.names :=
  List.contains_iff_mem

/-- Registering as a step and the registration are one. -/
theorem answer_eq_register (r : Registry) (c : Registration) :
    r.answer c =
      match r.register c.1 c.2 with
      | .ok r' => (.ok (), r')
      | .error e => (.error e, r) := by
  have hrun : r.answer c =
      ((if r.mappers.contains c.1 = true then throw (.duplicate c.1)
        else modify fun r => ⟨r.mappers.insert c.1 c.2⟩ :
        ExceptT RegistryError (StateM Registry) Unit).run.run r) := rfl
  rw [hrun, register]
  by_cases h : r.mappers.contains c.1 = true
  · rw [if_pos h, if_pos h]
    rfl
  · rw [if_neg h, if_neg h]
    rfl

/-- A registration that succeeds is answered by the registry that it gives. -/
theorem register_eq_ok_iff {r' : Registry} :
    r.register c.1 c.2 = .ok r' ↔ r.answer c = (.ok (), r') := by
  rw [answer_eq_register]
  cases r.register c.1 c.2 with
  | error e => exact iff_of_false (by simp) (by simp)
  | ok r'' => exact ⟨fun h => congrArg _ (Except.ok.inj h), fun h => congrArg _ (Prod.mk.inj h).2⟩

/-- A registration that fails is answered by its failure and the registry as it was. -/
theorem register_eq_error_iff {e : RegistryError} :
    r.register c.1 c.2 = .error e ↔ r.answer c = (.error e, r) := by
  rw [answer_eq_register]
  cases r.register c.1 c.2 with
  | error e' => simp
  | ok r' => exact iff_of_false (by simp) (by simp)

/-- **A name that is taken is refused**, and nothing changes. -/
theorem answer_of_mem (h : c.1 ∈ r.names) : r.answer c = (.error (.duplicate c.1), r) := by
  rw [answer_eq_register, register, if_pos (contains_eq_true_iff.mpr h)]

/-- **Under a new name the mapper is put in.** -/
theorem answer_of_notMem (h : c.1 ∉ r.names) :
    r.answer c = (.ok (), ⟨r.mappers.insert c.1 c.2⟩) := by
  rw [answer_eq_register, register, if_neg (mt contains_eq_true_iff.mp h)]

/-- A registration succeeds if its name is new. -/
theorem isOk_answer_iff : (r.answer c).1.isOk = true ↔ c.1 ∉ r.names := by
  by_cases h : c.1 ∈ r.names
  · rw [answer_of_mem h]
    exact iff_of_false Bool.false_ne_true (not_not_intro h)
  · rw [answer_of_notMem h]
    exact iff_of_true rfl h

/-! ## What a registry answers to a name -/

/-- A name is there if it leads to a mapper. -/
theorem mem_names_iff : name ∈ r.names ↔ ∃ m, r.mappers.get? name = some m := by
  rw [names, Dict.keys, List.mem_map]
  constructor
  · rintro ⟨⟨_, m⟩, he, rfl⟩
    exact ⟨m, Dict.mem_entries_iff.mp he⟩
  · rintro ⟨m, hm⟩
    exact ⟨(name, m), Dict.mem_entries_iff.mpr hm, rfl⟩

/-- A name that is not registered has no mapper. -/
theorem notMem_names_iff : name ∉ r.names ↔ r.mappers.get? name = none := by
  rw [mem_names_iff, Option.eq_none_iff_forall_ne_some, not_exists]

/-- A mapper is given out exactly under the name it is held under. -/
theorem get_eq_ok_iff {m : Mapper} : r.get name = .ok m ↔ r.mappers.get? name = some m := by
  rw [get]
  cases r.mappers.get? name with
  | none => exact iff_of_false (by simp) (by simp)
  | some m' => rw [Except.ok.injEq, Option.some_inj]

/-- **A name is unknown if it is not there**, and then the names that are there are listed. -/
theorem get_eq_error_iff {e : RegistryError} :
    r.get name = .error e ↔ name ∉ r.names ∧ e = .unknown name r.names := by
  rw [notMem_names_iff, get]
  cases r.mappers.get? name with
  | none => rw [Except.error.injEq, eq_comm, and_iff_right rfl]
  | some m => exact iff_of_false (by simp) (by simp)

/-! ## Registrations one after the other -/

/-- The registry after some registrations, the refused ones among them. -/
def after (r : Registry) : List Registration → Registry
  | [] => r
  | c :: cs => (r.answer c).2.after cs

/-- Those of some registrations that succeed, in their order. -/
def accepted (r : Registry) : List Registration → List Registration
  | [] => []
  | c :: cs =>
    if (r.answer c).1.isOk then c :: (r.answer c).2.accepted cs else (r.answer c).2.accepted cs

/-- Further registrations go on from the registry the first ones leave. -/
theorem after_append (r : Registry) (cs more : List Registration) :
    r.after (cs ++ more) = (r.after cs).after more := by
  induction cs generalizing r with
  | nil => rfl
  | cons c cs ih => exact ih (r.answer c).2

/-- **A registration is looked at only if there is no earlier one** of its name. -/
theorem get?_answer (r : Registry) (c : Registration) (name : String) :
    (r.answer c).2.mappers.get? name = (r.mappers.get? name).or ([c].lookup name) := by
  by_cases h : c.1 ∈ r.names
  · -- the name is taken, so it is either another one or has its mapper
    rw [answer_of_mem h]
    by_cases hname : name = c.1
    · obtain ⟨m, hm⟩ := mem_names_iff.mp (hname ▸ h)
      rw [hm, Option.some_or]
    · rw [List.lookup_cons, beq_eq_false_iff_ne.mpr hname, List.lookup_nil, Option.or_none]
  · rw [answer_of_notMem h]
    by_cases hname : name = c.1
    · rw [hname, Dict.get?_insert_self, notMem_names_iff.mp h, Option.none_or, List.lookup_cons,
        BEq.refl]
    · rw [Dict.get?_insert_of_ne _ hname, List.lookup_cons, beq_eq_false_iff_ne.mpr hname,
        List.lookup_nil, Option.or_none]

/-- **After some registrations a name leads to the first mapper of that name**, those that were there
before coming first. -/
theorem get?_after (r : Registry) (cs : List Registration) (name : String) :
    (r.after cs).mappers.get? name = (r.mappers.get? name).or (cs.lookup name) := by
  induction cs generalizing r with
  | nil => exact (Option.or_none).symm
  | cons c cs ih =>
      rw [after, ih, get?_answer, Option.or_assoc, ← List.lookup_append, List.singleton_append]

/-- A refused registration leaves the registry as it is. -/
theorem snd_answer_of_not_isOk (h : ¬(r.answer c).1.isOk = true) : (r.answer c).2 = r := by
  rw [answer_of_mem (not_not.mp (mt isOk_answer_iff.mpr h))]

/-- The registrations that are refused can be left out. -/
theorem after_accepted (r : Registry) (cs : List Registration) :
    r.after (r.accepted cs) = r.after cs := by
  induction cs generalizing r with
  | nil => rfl
  | cons c cs ih =>
      rw [accepted, after]
      by_cases h : (r.answer c).1.isOk = true
      · rw [if_pos h, after, ih]
      · rw [if_neg h, snd_answer_of_not_isOk h, ih]

/-- A registration under a new name adds that name. -/
theorem names_answer_perm (h : c.1 ∉ r.names) : (r.answer c).2.names.Perm (c.1 :: r.names) := by
  rw [answer_of_notMem h]
  exact (Dict.insertEntry_perm h).map (·.1)

/-- **Of the registrations that succeed no two have one name**, and none has a name that was there
before. -/
theorem nodup_accepted (r : Registry) (cs : List Registration) :
    (r.names ++ (r.accepted cs).map (·.1)).Nodup := by
  induction cs generalizing r with
  | nil =>
      rw [accepted, List.map_nil, List.append_nil]
      exact r.mappers.nodup_keys
  | cons c cs ih =>
      rw [accepted]
      by_cases h : (r.answer c).1.isOk = true
      · -- the name has moved from the registrations to those that are there
        have hperm := (names_answer_perm (isOk_answer_iff.mp h)).append_right
          (((r.answer c).2.accepted cs).map (·.1))
        rw [if_pos h, List.map_cons, List.perm_middle.nodup_iff]
        exact hperm.nodup_iff.mp (ih _)
      · rw [if_neg h, snd_answer_of_not_isOk h]
        exact ih r

/-- The names that are there afterwards. -/
theorem mem_names_after {cs : List Registration} :
    name ∈ (r.after cs).names ↔ name ∈ r.names ∨ name ∈ cs.map (·.1) := by
  have hlookup : cs.lookup name = none ↔ name ∉ cs.map (·.1) := by
    rw [List.lookup_eq_none_iff, List.mem_map, not_exists]
    simp only [bne_iff_ne, not_and, ne_eq]
    exact forall₂_congr fun _ _ => not_congr eq_comm
  rw [← not_iff_not, notMem_names_iff, get?_after, Option.or_eq_none_iff, not_or, notMem_names_iff,
    hlookup]

/-- The built-in mappers and their names. -/
theorem entries_builtin : builtin.mappers.entries = [("mysql", mysql), ("tidb", tidb)] := by
  have hlt : ¬"tidb" < "mysql" := by decide
  have hne : ¬"tidb" = "mysql" := by decide
  show Dict.insertEntry "tidb" tidb [("mysql", mysql)] = _
  rw [Dict.insertEntry, if_neg hlt, if_neg hne]
  rfl

/-- **What registrations settle.** Take any registry, such as the one without mappers or the one of the
built-in ones, and any registrations, whether or not they succeed. Then

* a further registration is answered with what `register` gives, or with its failure and the registry as it
  is; it is refused as a duplicate exactly if its name is there, and succeeds otherwise;
* a name leads to the mapper that was there first, or else to that of the first registration of the
  name that succeeded, of which there is only one, and this stays so whatever is registered later;
* a name is unknown exactly if it is not there, and the names that are there are listed then;
* the names are those that were there and those of the registrations, in ascending order of their
  bytes. -/
theorem registrations_settled :
    (empty.mappers.entries = [] ∧ builtin.mappers.entries = [("mysql", mysql), ("tidb", tidb)]) ∧
    ∀ (start : Registry) (cs : List Registration),
      let r := start.after cs
      (∀ c, ((r.answer c).1 = .error (.duplicate c.1) ↔ c.1 ∈ r.names) ∧
        ((r.answer c).1 = .ok () ↔ c.1 ∉ r.names) ∧
        (c.1 ∈ r.names → (r.answer c).2 = r) ∧
        (∀ r', r.register c.1 c.2 = .ok r' ↔ r.answer c = (.ok (), r')) ∧
        ∀ e, r.register c.1 c.2 = .error e ↔ r.answer c = (.error e, r)) ∧
      (∀ name m, r.get name = .ok m ↔
        (start.mappers.entries ++ start.accepted cs).lookup name = some m) ∧
      (start.names ++ (start.accepted cs).map (·.1)).Nodup ∧
      (∀ name m more, r.get name = .ok m → (start.after (cs ++ more)).get name = .ok m) ∧
      (∀ name e, r.get name = .error e ↔ name ∉ r.names ∧ e = .unknown name r.names) ∧
      (∀ name, (RegistryError.unknown name r.names).message =
        "unknown dialect `" ++ name ++ "` (available: " ++ String.intercalate ", " r.names ++ ")") ∧
      r.names.Pairwise (fun a b => Text.bytes a < Text.bytes b) ∧
      ∀ name, name ∈ r.names ↔ name ∈ start.names ∨ name ∈ cs.map (·.1) := by
  refine ⟨⟨rfl, entries_builtin⟩, fun start cs => ?_⟩
  refine ⟨fun c => ?answered, fun name m => ?first, nodup_accepted start cs,
    fun name m more h => ?kept, fun name e => get_eq_error_iff, fun name => rfl, ?ascending,
    fun name => mem_names_after⟩
  case answered =>
    refine ⟨?_, ?_, fun h => ?_, fun r' => register_eq_ok_iff, fun e => register_eq_error_iff⟩
    · by_cases h : c.1 ∈ (start.after cs).names
      · rw [answer_of_mem h]
        exact iff_of_true rfl h
      · rw [answer_of_notMem h]
        exact iff_of_false (by simp) h
    · rw [← isOk_answer_iff]
      cases (answer (start.after cs) c).1 with
      | error e => exact iff_of_false (by simp) (by simp [Except.isOk, Except.toBool])
      | ok u => exact iff_of_true rfl rfl
    · rw [answer_of_mem h]
  case first =>
    -- refused registrations are looked at only behind an earlier one of their name, so they can go
    rw [get_eq_ok_iff, ← after_accepted, get?_after, List.lookup_append]
    rfl
  case kept =>
    rw [get_eq_ok_iff] at h ⊢
    rw [after_append, get?_after, h, Option.some_or]
  case ascending =>
    exact (start.after cs).mappers.pairwise_keys.imp Text.bytes_lt_iff.mpr

/-- A mapper that is registered next to the built-in ones keeps its name: the second registration of the
name is refused. -/
theorem registrations_settled_fixed :
    let r := builtin.after [("fixed", mysql)]
    "fixed" ∈ r.names ∧ (r.answer ("fixed", tidb)).2 = r ∧ r.get "fixed" = .ok mysql ∧
      (builtin.after ([("fixed", mysql)] ++ [("fixed", tidb)])).get "fixed" = .ok mysql := by
  obtain ⟨hanswers, -, -, hkept, -⟩ := registrations_settled.2 builtin [("fixed", mysql)]
  have hmem : "fixed" ∈ (builtin.after [("fixed", mysql)]).names :=
    mem_names_after.mpr (.inr List.mem_cons_self)
  have hget : (builtin.after [("fixed", mysql)]).get "fixed" = .ok mysql := by
    rw [get_eq_ok_iff, get?_after, Dict.get?, entries_builtin]
    rfl
  exact ⟨hmem, (hanswers ("fixed", tidb)).2.2.1 hmem, hget, hkept "fixed" mysql [("fixed", tidb)] hget⟩

end Tablewright.Dialect.Registry

import Mathlib.Data.List.Nodup
import Tablewright.Dict
import Tablewright.Proofs.Lists

/-! # Entries of dictionaries

What a dictionary holds after entries have been put into it, one after the other, and what it answers
after one has been put in or taken out.

* `mem_keys_ofList`: the keys of a dictionary are those of the entries that it is made of.
* `ofList_entries`: a dictionary is made of its own entries.
* `ofList_perm`: the order of entries with different keys does not matter.
* `get?_insert_self`, `get?_insert_of_ne`, `get?_erase_self`, `get?_erase_of_ne`: one key is changed.
* `ext_get?`: a dictionary is what it answers. -/

namespace Tablewright.Dict

variable {α : Type}

/-- The keys of a dictionary are in ascending order, none of them twice. -/
theorem pairwise_keys (d : Dict α) : d.keys.Pairwise (· < ·) :=
  List.pairwise_map.mpr d.sorted

/-- The keys of a dictionary are distinct. -/
theorem nodup_keys (d : Dict α) : d.keys.Nodup :=
  d.pairwise_keys.imp fun hlt => String.ne_of_lt hlt

/-- The order of the keys leaves no choice to the order of the entries. -/
theorem eq_of_perm {d e : Dict α} (h : d.entries.Perm e.entries) : d = e := by
  refine ext_entries (h.eq_of_pairwise ?_ d.sorted e.sorted)
  intro a b _ _ hab hba
  exact absurd (String.lt_trans hab hba) (String.lt_irrefl _)

/-- Setting an entry adds its key to the keys and removes none. -/
theorem mem_map_insertEntry {k j : String} {v : α} {es : List (String × α)} :
    j ∈ (insertEntry k v es).map (·.1) ↔ j = k ∨ j ∈ es.map (·.1) := by
  induction es with
  | nil => simp [insertEntry]
  | cons e es ih =>
      rw [insertEntry]
      by_cases hlt : k < e.1
      · rw [if_pos hlt, List.map_cons, List.mem_cons]
      · rw [if_neg hlt]
        by_cases heq : k = e.1
        · rw [if_pos heq, List.map_cons, List.map_cons, List.mem_cons, List.mem_cons, heq]
          exact or_self_left.symm
        · rw [if_neg heq, List.map_cons, List.map_cons, List.mem_cons, List.mem_cons, ih]
          exact or_left_comm

/-- The keys after setting `k` are `k` and the keys before. -/
@[simp] theorem mem_keys_insert {d : Dict α} {k j : String} {v : α} :
    j ∈ (d.insert k v).keys ↔ j = k ∨ j ∈ d.keys :=
  mem_map_insertEntry

/-- Setting a list of entries sets its first entry first. -/
theorem insertAll_cons (d : Dict α) (e : String × α) (es : List (String × α)) :
    d.insertAll (e :: es) = (d.insert e.1 e.2).insertAll es := rfl

/-- The keys after setting a list of entries are the keys before and those of the list. -/
theorem mem_keys_insertAll {d : Dict α} {es : List (String × α)} {j : String} :
    j ∈ (d.insertAll es).keys ↔ j ∈ d.keys ∨ j ∈ es.map (·.1) := by
  induction es generalizing d with
  | nil => simp [insertAll]
  | cons e es ih =>
      rw [insertAll_cons, ih, mem_keys_insert, List.map_cons, List.mem_cons, or_assoc]
      exact or_left_comm

/-- **The keys of a dictionary are those of the entries that it is made of.** -/
theorem mem_keys_ofList {es : List (String × α)} {j : String} :
    j ∈ (ofList es).keys ↔ j ∈ es.map (·.1) := by
  have hempty : j ∉ (empty : Dict α).keys := List.not_mem_nil
  rw [ofList, mem_keys_insertAll]
  exact or_iff_right hempty

/-- A key behind all others goes to the end. -/
theorem insertEntry_of_forall_lt {k : String} {v : α} {es : List (String × α)}
    (h : ∀ e ∈ es, e.1 < k) : insertEntry k v es = es ++ [(k, v)] := by
  induction es with
  | nil => rfl
  | cons e es ih =>
      obtain ⟨he, hes⟩ := List.forall_mem_cons.mp h
      have hlt : ¬ k < e.1 := fun hk => String.lt_irrefl _ (String.lt_trans hk he)
      have hne : k ≠ e.1 := fun hk => String.lt_irrefl _ (hk ▸ he)
      rw [insertEntry, if_neg hlt, if_neg hne, ih hes, List.cons_append]

/-- Entries in ascending order that are put behind the ones that are there. -/
theorem entries_insertAll {d : Dict α} {es : List (String × α)}
    (h : (d.entries ++ es).Pairwise fun a b => a.1 < b.1) :
    (d.insertAll es).entries = d.entries ++ es := by
  induction es generalizing d with
  | nil => exact (List.append_nil _).symm
  | cons e es ih =>
      have hlast : ∀ a ∈ d.entries, a.1 < e.1 := fun a ha =>
        (List.pairwise_append.mp h).2.2 a ha e List.mem_cons_self
      have hinsert : (d.insert e.1 e.2).entries = d.entries ++ [e] :=
        insertEntry_of_forall_lt hlast
      rw [insertAll_cons, ih (by rw [hinsert]; simpa using h), hinsert, List.append_assoc]
      rfl

/-- **A dictionary is made of its own entries.** -/
@[simp] theorem ofList_entries (d : Dict α) : ofList d.entries = d :=
  ext_entries (entries_insertAll d.sorted)

/-- An entry under a new key is put among the others, whose order stays. -/
theorem insertEntry_perm {k : String} {v : α} {es : List (String × α)} (hk : k ∉ es.map (·.1)) :
    (insertEntry k v es).Perm ((k, v) :: es) := by
  induction es with
  | nil => exact .refl _
  | cons e es ih =>
      obtain ⟨hne, hes⟩ := List.ne_and_not_mem_of_not_mem_cons hk
      rw [insertEntry, if_neg hne]
      by_cases hlt : k < e.1
      · rw [if_pos hlt]
      · rw [if_neg hlt]
        exact ((ih hes).cons e).trans (List.Perm.swap _ _ es)

/-- Entries whose keys are new are added to the ones that are there. -/
theorem entries_insertAll_perm {d : Dict α} {es : List (String × α)}
    (h : ((es ++ d.entries).map (·.1)).Nodup) :
    (d.insertAll es).entries.Perm (es ++ d.entries) := by
  induction es generalizing d with
  | nil => exact .refl _
  | cons e es ih =>
      have hnew : e.1 ∉ d.entries.map (·.1) := by
        rw [List.cons_append, List.map_cons, List.map_append] at h
        exact fun he => (List.nodup_cons.mp h).1 (List.mem_append_right _ he)
      have hinsert : (d.insert e.1 e.2).entries.Perm (e :: d.entries) := insertEntry_perm hnew
      have hmiddle : (es ++ (d.insert e.1 e.2).entries).Perm (e :: (es ++ d.entries)) :=
        (hinsert.append_left es).trans List.perm_middle
      rw [insertAll_cons]
      exact (ih ((hmiddle.map (·.1)).nodup_iff.mpr h)).trans hmiddle

/-- **The order of entries with different keys does not matter.** -/
theorem ofList_perm {es es' : List (String × α)} (hperm : es.Perm es')
    (hkeys : (es.map (·.1)).Nodup) : ofList es' = ofList es := by
  have hentries : ∀ {l : List (String × α)}, (l.map (·.1)).Nodup → (ofList l).entries.Perm l := by
    intro l hl
    have hnil : l ++ (empty : Dict α).entries = l := List.append_nil l
    have hall : (ofList l).entries.Perm (l ++ (empty : Dict α).entries) :=
      entries_insertAll_perm (by rwa [hnil])
    rwa [hnil] at hall
  exact eq_of_perm
    (((hentries ((hperm.map (·.1)).nodup_iff.mp hkeys)).trans hperm.symm).trans (hentries hkeys).symm)

/-! ## Answers -/

/-- The key that is set is found with its new value. -/
theorem lookup_insertEntry_self (k : String) (v : α) (es : List (String × α)) :
    (insertEntry k v es).lookup k = some v := by
  have hhead : ∀ es : List (String × α), List.lookup k ((k, v) :: es) = some v := fun es => by
    rw [List.lookup_cons, BEq.refl]
  induction es with
  | nil => exact hhead []
  | cons e es ih =>
      rw [insertEntry]
      by_cases hlt : k < e.1
      · rw [if_pos hlt, hhead]
      · rw [if_neg hlt]
        by_cases heq : k = e.1
        · rw [if_pos heq, hhead]
        · rw [if_neg heq, List.lookup_cons, beq_eq_false_iff_ne.mpr heq]
          exact ih

/-- Every other key is found with the value it had. -/
theorem lookup_insertEntry_of_ne {k j : String} (h : j ≠ k) (v : α) (es : List (String × α)) :
    (insertEntry k v es).lookup j = es.lookup j := by
  have htail : ∀ es : List (String × α), List.lookup j ((k, v) :: es) = es.lookup j := fun es => by
    rw [List.lookup_cons, beq_eq_false_iff_ne.mpr h]
  induction es with
  | nil => exact htail []
  | cons e es ih =>
      rw [insertEntry]
      by_cases hlt : k < e.1
      · rw [if_pos hlt, htail]
      · rw [if_neg hlt]
        by_cases heq : k = e.1
        · -- the entry that is replaced has not been looked for either
          rw [if_pos heq, htail, List.lookup_cons, beq_eq_false_iff_ne.mpr (heq ▸ h)]
        · rw [if_neg heq, List.lookup_cons, List.lookup_cons, ih]

/-- A key that is set has the value it is set to. -/
@[simp] theorem get?_insert_self (d : Dict α) (k : String) (v : α) :
    (d.insert k v).get? k = some v :=
  lookup_insertEntry_self k v d.entries

/-- Setting one key leaves the values of the others. -/
theorem get?_insert_of_ne (d : Dict α) {k j : String} (h : j ≠ k) (v : α) :
    (d.insert k v).get? j = d.get? j :=
  lookup_insertEntry_of_ne h v d.entries

/-- An erased key has no value. -/
@[simp] theorem get?_erase_self (d : Dict α) (k : String) : (d.erase k).get? k = none :=
  lookup_filter_self k d.entries

/-- Erasing one key leaves the values of the others. -/
theorem get?_erase_of_ne (d : Dict α) {k j : String} (h : j ≠ k) :
    (d.erase k).get? j = d.get? j :=
  lookup_filter_ne h d.entries

/-- The entries are the keys with the values they are found with. -/
theorem mem_entries_iff {d : Dict α} {k : String} {v : α} :
    (k, v) ∈ d.entries ↔ d.get? k = some v :=
  mem_iff_lookup_eq_some d.nodup_keys

/-- **A dictionary is what it answers.** -/
theorem ext_get? {d e : Dict α} (h : ∀ k, d.get? k = e.get? k) : d = e := by
  refine eq_of_perm ((List.perm_ext_iff_of_nodup (.of_map _ d.nodup_keys) (.of_map _ e.nodup_keys)).mpr ?_)
  intro entry
  rw [mem_entries_iff, mem_entries_iff, h]

end Tablewright.Dict

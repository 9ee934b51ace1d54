import Mathlib.Data.List.Forall2

/-! # Lists and steps that can fail

Readings of lists that several proofs share. What is read off two lists agrees when something finer
does (`map_eq_map_of_imp`). Sorting forgets the order in which the elements come if the order of their
keys leaves no choice (`mergeSort_eq_mergeSort_of_perm`), and keeps it where there is one
(`filter_mergeSort`). Entries are looked up by their keys (`mem_iff_lookup_eq_some`,
`lookup_filter_ne`), and what is added only if it is new comes behind the rest, once
(`exists_foldl_add_eq_append`). Going through a list with steps that can fail (`List.mapM` for
`Except`) separates into the steps that can fail and the ones that cannot (`mapM_map_eq`), has as its
results those of the steps (`mapM_eq_ok_iff`, `map_eq_of_mapM_eq_ok`, `forall₂_of_mapM_eq_ok`,
`exists_mem_of_mapM_eq_ok`, whatever the errors are: `map_eq_map_ok_congr`, in whatever order the elements
come: `exists_mapM_eq_ok_of_perm`), and fails as the first of them that does (`mapM_eq_error_iff`). Steps
that stand one behind the other are taken apart by `bind_eq_ok_iff`. -/

namespace Tablewright

variable {α β γ ε : Type}

/-- Two lists with the same `f` have the same `g`, if `f` determines `g` between them. -/
theorem map_eq_map_of_imp {f : α → β} {g : α → γ} {l m : List α}
    (hfg : ∀ a ∈ l, ∀ b ∈ m, f a = f b → g a = g b) (h : l.map f = m.map f) :
    l.map g = m.map g := by
  induction l generalizing m with
  | nil =>
      cases m with
      | nil => rfl
      | cons b m => contradiction
  | cons a l ih =>
      cases m with
      | nil => contradiction
      | cons b m =>
          obtain ⟨hhead, htail⟩ := List.cons.inj h
          rw [List.map_cons, List.map_cons, hfg a List.mem_cons_self b List.mem_cons_self hhead,
            ih (fun a ha b hb => hfg a (List.mem_cons_of_mem _ ha) b (List.mem_cons_of_mem _ hb))
              htail]

/-- Filtering one element gives what it is mapped to. -/
theorem filterMap_singleton (g : α → Option β) (a : α) : [a].filterMap g = (g a).toList := by
  cases h : g a with
  | none => rw [List.filterMap_cons_none h, List.filterMap_nil, Option.toList_none]
  | some b => rw [List.filterMap_cons_some h, List.filterMap_nil, Option.toList_some]

/-- If only one element of a list gives anything, and no other has its key, what it gives is all. -/
theorem filterMap_eq_toList {f : α → β} {g : α → Option γ} {l : List α} {a : α}
    (hnodup : (l.map f).Nodup) (ha : a ∈ l) (hg : ∀ b ∈ l, f b ≠ f a → g b = none) :
    l.filterMap g = (g a).toList := by
  induction l with
  | nil => contradiction
  | cons b l ih =>
      obtain ⟨hb, hl⟩ := List.nodup_cons.mp hnodup
      obtain ⟨hgb, hgl⟩ := List.forall_mem_cons.mp hg
      rcases List.mem_cons.mp ha with rfl | hmem
      · -- the keys behind it are other ones, so nothing more comes
        have hrest : l.filterMap g = [] := by
          rw [List.filterMap_eq_nil_iff]
          intro d hd
          exact hgl d hd fun heq => hb (heq ▸ List.mem_map_of_mem hd)
        rw [← List.singleton_append, List.filterMap_append, hrest, List.append_nil,
          filterMap_singleton]
      · have hne : f b ≠ f a := fun heq => hb (heq ▸ List.mem_map_of_mem hmem)
        rw [List.filterMap_cons, hgb hne]
        exact ih hl hmem hgl

/-! ## Sorting -/

section Sorting

variable {le : α → α → Bool}

/-- Sorting leaves nothing of the order in which the elements come, if two elements that may stand either
way round are one. -/
theorem mergeSort_eq_mergeSort_of_perm
    (htrans : ∀ a b c, le a b = true → le b c = true → le a c = true)
    (htotal : ∀ a b, (le a b || le b a) = true) {l m : List α} (hperm : l.Perm m)
    (hanti : ∀ a ∈ l, ∀ b ∈ l, le a b = true → le b a = true → a = b) :
    l.mergeSort le = m.mergeSort le := by
  have hl : (l.mergeSort le).Perm l := List.mergeSort_perm l le
  have hm : (m.mergeSort le).Perm l := (List.mergeSort_perm m le).trans hperm.symm
  refine (hl.trans hm.symm).eq_of_pairwise ?_ (List.pairwise_mergeSort htrans htotal l)
    (List.pairwise_mergeSort htrans htotal m)
  intro a b ha hb
  exact hanti a (hl.mem_iff.mp ha) b (hm.mem_iff.mp hb)

/-- Sorting by a number brings a list into the one order in which the numbers ascend. -/
theorem mergeSort_eq_of_perm {key : α → Nat} {l m : List α} (hperm : l.Perm m)
    (hm : m.Pairwise fun a b => key a < key b) :
    l.mergeSort (fun a b => decide (key a ≤ key b)) = m := by
  have htrans : ∀ a b c, decide (key a ≤ key b) = true → decide (key b ≤ key c) = true →
      decide (key a ≤ key c) = true := fun a b c hab hbc =>
    decide_eq_true (Nat.le_trans (of_decide_eq_true hab) (of_decide_eq_true hbc))
  have htotal : ∀ a b, (decide (key a ≤ key b) || decide (key b ≤ key a)) = true := by
    intro a b
    rw [Bool.or_eq_true, decide_eq_true_eq, decide_eq_true_eq]
    exact Nat.le_total _ _
  -- two elements with one number are one element
  have hkeys : ∀ a ∈ m, ∀ b ∈ m, key a = key b → a = b := fun a ha b hb =>
    List.Pairwise.forall_of_forall_of_flip (R := fun x y => key x = key y → x = y)
      (fun _ _ _ => rfl) (hm.imp fun hlt heq => absurd heq (Nat.ne_of_lt hlt))
      (hm.imp fun hlt heq => absurd heq (Nat.ne_of_gt hlt)) ha hb
  rw [mergeSort_eq_mergeSort_of_perm htrans htotal hperm fun a ha b hb hab hba =>
    hkeys a (hperm.mem_iff.mp ha) b (hperm.mem_iff.mp hb)
      (Nat.le_antisymm (of_decide_eq_true hab) (of_decide_eq_true hba))]
  exact List.mergeSort_of_pairwise (hm.imp fun hlt => decide_eq_true (Nat.le_of_lt hlt))

end Sorting

/-! ## Lists that are joined -/

/-- What each element of joined lists becomes, they become joined. -/
theorem flatMap_intercalate (f : α → List β) (sep : List α) (ls : List (List α)) :
    (List.intercalate sep ls).flatMap f =
      List.intercalate (sep.flatMap f) (ls.map fun l => l.flatMap f) := by
  match ls with
  | [] => rfl
  | [l] => rw [List.intercalate_singleton, List.map_singleton, List.intercalate_singleton]
  | l :: m :: ls =>
      rw [List.intercalate_cons_cons, List.flatMap_append, List.flatMap_append,
        flatMap_intercalate f sep (m :: ls), List.map_cons, List.map_cons, List.map_cons,
        List.intercalate_cons_cons]

/-- What is in joined lists is in one of them or in what they are joined by. -/
theorem mem_or_mem_of_mem_intercalate {sep : List α} {ls : List (List α)} {x : α}
    (h : x ∈ List.intercalate sep ls) : x ∈ sep ∨ ∃ l ∈ ls, x ∈ l := by
  match ls with
  | [] => contradiction
  | [l] =>
      rw [List.intercalate_singleton] at h
      exact .inr ⟨l, List.mem_cons_self, h⟩
  | l :: m :: ls =>
      rw [List.intercalate_cons_cons, List.mem_append, List.mem_append] at h
      rcases h with (hl | hsep) | hrest
      · exact .inr ⟨l, List.mem_cons_self, hl⟩
      · exact .inl hsep
      · refine (mem_or_mem_of_mem_intercalate hrest).imp_right ?_
        rintro ⟨l', hl', hx⟩
        exact ⟨l', List.mem_cons_of_mem _ hl', hx⟩

/-- One of joined lists is a stretch of all of them joined. -/
theorem infix_intercalate_of_mem {sep l : List α} {ls : List (List α)} (hl : l ∈ ls) :
    l <:+: List.intercalate sep ls := by
  match ls with
  | [] => contradiction
  | [m] =>
      have hall : l = List.intercalate sep [m] :=
        (List.mem_singleton.mp hl).trans List.intercalate_singleton.symm
      exact hall ▸ List.infix_rfl
  | m :: n :: ls =>
      rw [List.intercalate_cons_cons, List.append_assoc]
      rcases List.mem_cons.mp hl with rfl | hl
      · exact (List.prefix_append _ _).isInfix
      · exact (infix_intercalate_of_mem hl).trans
          ((List.suffix_append sep _).trans (List.suffix_append m _)).isInfix

/-- What is in one of joined lists is in all of them joined. -/
theorem mem_intercalate_of_mem {sep l : List α} {ls : List (List α)} {x : α} (hl : l ∈ ls)
    (hx : x ∈ l) : x ∈ List.intercalate sep ls :=
  (infix_intercalate_of_mem hl).subset hx

/-- Joining by nothing. -/
theorem intercalate_nil_left (ls : List (List α)) : List.intercalate [] ls = ls.flatten := by
  match ls with
  | [] => rfl
  | [l] => rw [List.intercalate_singleton, List.flatten_singleton]
  | l :: m :: ls =>
      rw [List.intercalate_cons_cons, intercalate_nil_left (m :: ls), List.append_nil,
        List.flatten_cons, List.flatten_cons, List.flatten_cons]

/-! ## Lists side by side -/

/-- What two lists have in common element by element, all of their elements have in common. -/
theorem forall_mem_iff_of_forall₂ {R : α → β → Prop} {p : α → Prop} {q : β → Prop} {l : List α}
    {m : List β} (h : List.Forall₂ R l m) (hpq : ∀ a ∈ l, ∀ b ∈ m, R a b → (p a ↔ q b)) :
    (∀ a ∈ l, p a) ↔ ∀ b ∈ m, q b := by
  induction h with
  | nil => exact iff_of_true (List.forall_mem_nil p) (List.forall_mem_nil q)
  | cons hab hrest ih =>
      rw [List.forall_mem_cons, List.forall_mem_cons]
      refine and_congr (hpq _ List.mem_cons_self _ List.mem_cons_self hab) (ih ?_)
      exact fun a ha b hb => hpq a (List.mem_cons_of_mem _ ha) b (List.mem_cons_of_mem _ hb)

/-! ## Entries with keys -/

section Lookup

variable [BEq α] [LawfulBEq α]

/-- Among entries with different keys, an entry is what its key leads to. -/
theorem mem_iff_lookup_eq_some {entries : List (α × β)} (hnodup : (entries.map (·.1)).Nodup) {k : α}
    {v : β} : (k, v) ∈ entries ↔ entries.lookup k = some v := by
  induction entries with
  | nil => simp
  | cons e entries ih =>
      obtain ⟨he, hentries⟩ := List.nodup_cons.mp hnodup
      rw [List.lookup_cons, List.mem_cons, ih hentries]
      by_cases hke : k = e.1
      · -- no other entry has this key
        have hno : entries.lookup k ≠ some v := fun h =>
          he (List.mem_map.mpr ⟨(k, v), (ih hentries).mpr h, hke⟩)
        rw [beq_iff_eq.mpr hke, or_iff_left hno, Option.some_inj]
        exact ⟨fun h => (congrArg Prod.snd h).symm, fun h => Prod.ext hke h.symm⟩
      · rw [beq_eq_false_iff_ne.mpr hke]
        exact or_iff_right fun h => hke (congrArg Prod.fst h)

/-- When the entries with one key are left out, all others are found as before. -/
theorem lookup_filter_ne {a b : α} (h : b ≠ a) (entries : List (α × β)) :
    (entries.filter fun e => e.1 != a).lookup b = entries.lookup b := by
  induction entries with
  | nil => rfl
  | cons e entries ih =>
      by_cases hea : e.1 = a
      · -- the entry is left out, and it is not the one that is looked for
        have hbe : (b == e.1) = false := by
          rw [hea]
          simpa using h
        rw [List.filter_cons_of_neg (by simp [hea]), ih, List.lookup_cons, hbe]
      · rw [List.filter_cons_of_pos (by simpa using hea), List.lookup_cons, List.lookup_cons, ih]

/-- A key whose entries are left out is not found. -/
theorem lookup_filter_self (a : α) (entries : List (α × β)) :
    (entries.filter fun e => e.1 != a).lookup a = none := by
  rw [List.lookup_eq_none_iff]
  intro e he
  rw [bne_comm]
  exact (List.mem_filter.mp he).2

end Lookup

/-! ## What is added if it is new -/

section Adding

variable [BEq α] [LawfulBEq α] {add : List α → α → List α}

/-- Adding keeps what is there and brings in all that is added. -/
theorem mem_foldl_add (hadd : ∀ xs x, add xs x = if xs.contains x then xs else xs ++ [x])
    {xs new : List α} {x : α} : x ∈ new.foldl add xs ↔ x ∈ xs ∨ x ∈ new := by
  induction new generalizing xs with
  | nil => simp
  | cons y new ih =>
      rw [List.foldl_cons, ih, hadd, List.mem_cons]
      by_cases h : y ∈ xs
      · rw [if_pos (List.contains_iff_mem.mpr h)]
        constructor
        · exact Or.imp_right Or.inr
        · rintro (hx | rfl | hnew)
          · exact Or.inl hx
          · exact Or.inl h
          · exact Or.inr hnew
      · rw [if_neg (mt List.contains_iff_mem.mp h), List.mem_append, List.mem_singleton, or_assoc]

/-- Adding what is all there changes nothing. -/
theorem foldl_add_eq_self (hadd : ∀ xs x, add xs x = if xs.contains x then xs else xs ++ [x])
    {xs new : List α} (h : ∀ x ∈ new, x ∈ xs) : new.foldl add xs = xs := by
  induction new with
  | nil => rfl
  | cons y new ih =>
      obtain ⟨hy, hnew⟩ := List.forall_mem_cons.mp h
      rw [List.foldl_cons, hadd, if_pos (List.contains_iff_mem.mpr hy)]
      exact ih hnew

/-- **What is added comes behind the rest**: each new element once, in the order in which it comes. -/
theorem exists_foldl_add_eq_append
    (hadd : ∀ xs x, add xs x = if xs.contains x then xs else xs ++ [x]) (xs new : List α) :
    ∃ added, new.foldl add xs = xs ++ added ∧ added.Sublist new ∧ added.Nodup ∧
      ∀ x, x ∈ added ↔ x ∈ new ∧ x ∉ xs := by
  induction new generalizing xs with
  | nil => exact ⟨[], (List.append_nil xs).symm, .slnil, .nil, by simp⟩
  | cons y new ih =>
      rw [List.foldl_cons, hadd]
      by_cases h : y ∈ xs
      · obtain ⟨added, hfold, hsublist, hnodup, hmem⟩ := ih xs
        rw [if_pos (List.contains_iff_mem.mpr h)]
        refine ⟨added, hfold, hsublist.cons y, hnodup, fun x => ?_⟩
        rw [hmem, List.mem_cons]
        refine and_congr_left fun hx => ⟨Or.inr, Or.rec ?_ id⟩
        rintro rfl
        exact absurd h hx
      · -- the new element is first among those that are added
        obtain ⟨added, hfold, hsublist, hnodup, hmem⟩ := ih (xs ++ [y])
        have hy : y ∉ added := fun hy => ((hmem y).mp hy).2 (by simp)
        rw [if_neg (mt List.contains_iff_mem.mp h)]
        refine ⟨y :: added, by rw [hfold, List.append_assoc, List.singleton_append], hsublist.cons_cons y,
          List.nodup_cons.mpr ⟨hy, hnodup⟩, fun x => ?_⟩
        rw [List.mem_cons, List.mem_cons, hmem, List.mem_append, List.mem_singleton]
        by_cases hxy : x = y
        · subst hxy
          exact ⟨fun _ => ⟨Or.inl rfl, h⟩, fun _ => Or.inl rfl⟩
        · rw [or_iff_right hxy, or_iff_right hxy, or_iff_left hxy]

end Adding

/-! ## Steps that can fail -/

/-- Two steps, one behind the other, give a result if both do. -/
theorem bind_eq_ok_iff {x : Except ε α} {f : α → Except ε β} {b : β} :
    x >>= f = .ok b ↔ ∃ a, x = .ok a ∧ f a = .ok b := by
  cases x with
  | error e =>
      refine ⟨fun h => ?_, fun ⟨a, ha, _⟩ => ?_⟩
      · contradiction
      · contradiction
  | ok a =>
      refine ⟨fun h => ⟨a, rfl, h⟩, fun ⟨a', ha, h⟩ => ?_⟩
      obtain rfl := Except.ok.inj ha
      exact h

/-- What is `ok` has a value. -/
theorem exists_eq_ok_of_isOk {x : Except ε α} (h : x.isOk = true) : ∃ a, x = .ok a := by
  cases x with
  | error e => contradiction
  | ok a => exact ⟨a, rfl⟩

/-- A value is kept as an option exactly if there is one. -/
theorem toOption_eq_some_iff {x : Except ε α} {a : α} : x.toOption = some a ↔ x = .ok a := by
  cases x with
  | error e => exact ⟨fun h => by contradiction, fun h => by contradiction⟩
  | ok b => exact ⟨fun h => congrArg _ (Option.some.inj h), fun h => congrArg _ (Except.ok.inj h)⟩

/-- Whether a step gives a certain result can be decided. -/
instance decidableEqOk [DecidableEq α] (x : Except ε α) (a : α) : Decidable (x = .ok a) :=
  match x with
  | .ok b => decidable_of_iff (b = a) ⟨congrArg Except.ok, Except.ok.inj⟩
  | .error _ => isFalse fun h => by contradiction

/-- Other words for a failure do not change when there is a result. -/
theorem mapError_eq_ok_iff {ε' : Type} {x : Except ε α} {f : ε → ε'} {a : α} :
    x.mapError f = .ok a ↔ x = .ok a := by
  cases x with
  | error e => exact ⟨fun h => by contradiction, fun h => by contradiction⟩
  | ok a' => exact ⟨fun h => congrArg _ (Except.ok.inj h), fun h => congrArg _ (Except.ok.inj h)⟩

/-- Steps that succeed alike have the same results. -/
theorem map_eq_map_ok_congr {ε' : Type} {f : α → Except ε β} {g : α → Except ε' β}
    (hfg : ∀ x y, f x = .ok y ↔ g x = .ok y) {xs : List α} {ys : List β} :
    xs.map f = ys.map .ok ↔ xs.map g = ys.map .ok := by
  induction xs generalizing ys with
  | nil =>
      rw [List.map_nil, List.map_nil, List.nil_eq, List.nil_eq, List.map_eq_nil_iff,
        List.map_eq_nil_iff]
  | cons x xs ih =>
      cases ys with
      | nil => exact iff_of_false (by simp) (by simp)
      | cons y ys =>
          simp only [List.map_cons, List.cons.injEq]
          exact and_congr (hfg x y) ih

/-- What is done with a result does not change when there is a failure. -/
theorem map_eq_error_iff {x : Except ε α} {f : α → β} {e : ε} :
    x.map f = .error e ↔ x = .error e := by
  cases x with
  | error e' =>
      exact ⟨fun h => congrArg _ (Except.error.inj h), fun h => congrArg _ (Except.error.inj h)⟩
  | ok a => exact ⟨fun h => by contradiction, fun h => by contradiction⟩

/-- Mapping one element maps that element. -/
theorem mapM_singleton (f : α → Except ε β) (x : α) : [x].mapM f = (f x).map fun y => [y] := by
  rw [List.mapM_cons, List.mapM_nil]
  cases f x with
  | error e => rfl
  | ok y => rfl

/-- What comes behind the steps that can fail may wait until all of them are done. -/
theorem mapM_map_eq (xs : List α) (f : α → Except ε β) (g : α → β → γ) :
    xs.mapM (fun x => (f x).map (g x)) = (xs.mapM f).map (List.zipWith g xs) := by
  induction xs with
  | nil => rfl
  | cons x xs ih =>
      rw [List.mapM_cons, List.mapM_cons, ih]
      cases f x with
      | error e => rfl
      | ok y =>
          cases xs.mapM f with
          | error e => rfl
          | ok ys => rfl

/-- The results are those of the first step and of the others. -/
theorem mapM_cons_eq_ok {x : α} {xs : List α} {ys : List β} {f : α → Except ε β}
    (h : (x :: xs).mapM f = .ok ys) :
    ∃ z zs, f x = .ok z ∧ xs.mapM f = .ok zs ∧ ys = z :: zs := by
  rw [List.mapM_cons, bind_eq_ok_iff] at h
  obtain ⟨z, hz, h⟩ := h
  obtain ⟨zs, hzs, h⟩ := bind_eq_ok_iff.mp h
  exact ⟨z, zs, hz, hzs, (Except.ok.inj h).symm⟩

/-- The results are those of the steps, in their order. -/
theorem mapM_eq_ok_iff {xs : List α} {ys : List β} {f : α → Except ε β} :
    xs.mapM f = .ok ys ↔ xs.map f = ys.map .ok := by
  induction xs generalizing ys with
  | nil =>
      rw [List.mapM_nil, List.map_nil, List.nil_eq, List.map_eq_nil_iff]
      exact ⟨fun h => (Except.ok.inj h).symm, fun h => congrArg Except.ok h.symm⟩
  | cons x xs ih =>
      constructor
      · intro h
        obtain ⟨z, zs, hz, hzs, rfl⟩ := mapM_cons_eq_ok h
        rw [List.map_cons, List.map_cons, hz, ih.mp hzs]
      · intro h
        cases ys with
        | nil => contradiction
        | cons y ys =>
            obtain ⟨hhead, htail⟩ := List.cons.inj h
            rw [List.mapM_cons, hhead, ih.mpr htail]
            rfl

/-- If every step with something behind it that cannot fail has a result, the steps alone have. -/
theorem exists_mapM_eq_ok_of_map {xs : List α} {f : α → Except ε β} {g : α → β → γ} {zs : List γ}
    (h : xs.map (fun x => (f x).map (g x)) = zs.map .ok) :
    ∃ ys, xs.mapM f = .ok ys ∧ zs = List.zipWith g xs ys := by
  rw [← mapM_eq_ok_iff, mapM_map_eq] at h
  cases hys : xs.mapM f with
  | error e =>
      rw [hys] at h
      contradiction
  | ok ys =>
      rw [hys] at h
      exact ⟨ys, rfl, (Except.ok.inj h).symm⟩

/-- What every step says about its result can be read off all results. -/
theorem map_eq_of_mapM_eq_ok {g : β → γ} {k : α → γ} {xs : List α} {ys : List β}
    {f : α → Except ε β} (hf : ∀ x y, f x = .ok y → g y = k x) (h : xs.mapM f = .ok ys) :
    ys.map g = xs.map k := by
  induction xs generalizing ys with
  | nil =>
      obtain rfl := Except.ok.inj h
      rfl
  | cons x xs ih =>
      obtain ⟨z, zs, hz, hzs, rfl⟩ := mapM_cons_eq_ok h
      rw [List.map_cons, List.map_cons, hf x z hz, ih hzs]

/-- What every step says about its result holds between the elements and the results, in order. -/
theorem forall₂_of_mapM_eq_ok {R : α → β → Prop} {xs : List α} {ys : List β} {f : α → Except ε β}
    (hf : ∀ x y, f x = .ok y → R x y) (h : xs.mapM f = .ok ys) : List.Forall₂ R xs ys := by
  induction xs generalizing ys with
  | nil =>
      obtain rfl := Except.ok.inj h
      exact .nil
  | cons x xs ih =>
      obtain ⟨z, zs, hz, hzs, rfl⟩ := mapM_cons_eq_ok h
      exact .cons (hf x z hz) (ih hzs)

/-- There is one result for each element. -/
theorem length_of_mapM_eq_ok {xs : List α} {ys : List β} {f : α → Except ε β}
    (h : xs.mapM f = .ok ys) : ys.length = xs.length := by
  have hunit := map_eq_of_mapM_eq_ok (fun x y _ => Eq.refl ()) h
  simpa using congrArg List.length hunit

/-- Every result is that of an element. -/
theorem exists_mem_of_mapM_eq_ok {xs : List α} {ys : List β} {f : α → Except ε β} {y : β}
    (h : xs.mapM f = .ok ys) (hy : y ∈ ys) : ∃ x ∈ xs, f x = .ok y := by
  induction xs generalizing ys with
  | nil =>
      obtain rfl := Except.ok.inj h
      contradiction
  | cons x xs ih =>
      obtain ⟨z, zs, hz, hzs, rfl⟩ := mapM_cons_eq_ok h
      rcases List.mem_cons.mp hy with rfl | hmem
      · exact ⟨x, List.mem_cons_self, hz⟩
      · obtain ⟨x', hx', hy'⟩ := ih hzs hmem
        exact ⟨x', List.mem_cons_of_mem _ hx', hy'⟩

/-- If there are results, that of every element is among them. -/
theorem exists_mem_and_eq_of_mapM_eq_ok {xs : List α} {ys : List β} {f : α → Except ε β} {x : α}
    (h : xs.mapM f = .ok ys) (hx : x ∈ xs) : ∃ y ∈ ys, f x = .ok y := by
  induction xs generalizing ys with
  | nil => contradiction
  | cons x' xs ih =>
      obtain ⟨z, zs, hz, hzs, rfl⟩ := mapM_cons_eq_ok h
      rcases List.mem_cons.mp hx with rfl | hmem
      · exact ⟨z, List.mem_cons_self, hz⟩
      · obtain ⟨y, hy, hx'⟩ := ih hzs hmem
        exact ⟨y, List.mem_cons_of_mem _ hy, hx'⟩

/-- If there are results, no step has failed. -/
theorem exists_eq_ok_of_mapM_eq_ok {xs : List α} {ys : List β} {f : α → Except ε β} {x : α}
    (h : xs.mapM f = .ok ys) (hx : x ∈ xs) : ∃ y, f x = .ok y := by
  obtain ⟨y, -, hy⟩ := exists_mem_and_eq_of_mapM_eq_ok h hx
  exact ⟨y, hy⟩

/-- If no step fails, there are results. -/
theorem exists_mapM_eq_ok {xs : List α} {f : α → Except ε β} (h : ∀ x ∈ xs, ∃ y, f x = .ok y) :
    ∃ ys, xs.mapM f = .ok ys := by
  induction xs with
  | nil => exact ⟨[], rfl⟩
  | cons x xs ih =>
      obtain ⟨⟨y, hy⟩, hxs⟩ := List.forall_mem_cons.mp h
      obtain ⟨ys, hys⟩ := ih hxs
      refine ⟨y :: ys, ?_⟩
      rw [List.mapM_cons, hy, hys]
      rfl

/-- **The first step that fails decides the failure.** -/
theorem mapM_eq_error_iff {xs : List α} {f : α → Except ε β} {e : ε} :
    xs.mapM f = .error e ↔
      ∃ before x after, xs = before ++ x :: after ∧ (∀ y ∈ before, ∃ z, f y = .ok z) ∧
        f x = .error e := by
  constructor
  · intro h
    induction xs with
    | nil => contradiction
    | cons x xs ih =>
        cases hx : f x with
        | error e' =>
            rw [List.mapM_cons, hx] at h
            obtain rfl : e' = e := Except.error.inj h
            exact ⟨[], x, xs, rfl, fun y hy => absurd hy List.not_mem_nil, hx⟩
        | ok z =>
            -- the first step gave a value, so the failure is one of the others
            have htail : xs.mapM f = .error e := by
              rw [List.mapM_cons, hx] at h
              cases hxs : xs.mapM f with
              | error e' =>
                  rw [hxs] at h
                  exact congrArg _ (Except.error.inj h)
              | ok zs =>
                  rw [hxs] at h
                  contradiction
            obtain ⟨before, y, after, rfl, hbefore, hy⟩ := ih htail
            exact ⟨x :: before, y, after, rfl, List.forall_mem_cons.mpr ⟨⟨z, hx⟩, hbefore⟩, hy⟩
  · rintro ⟨before, x, after, rfl, hbefore, hx⟩
    obtain ⟨zs, hzs⟩ := exists_mapM_eq_ok hbefore
    rw [List.mapM_append, hzs, List.mapM_cons, hx]
    rfl

end Tablewright

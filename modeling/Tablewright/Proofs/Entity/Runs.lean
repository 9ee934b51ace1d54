import Tablewright.Proofs.Dict
import Tablewright.Proofs.Entity.Transform

/-! # Several options, one after the other

Options may be applied to a field any number of times, and they may be other ones each time
(`Field.transformAll`). Each time the field keeps all that belongs to its column, it can lose its pointer
and never gains one, and new tags come behind the ones that are there (`Succeeds`). As this relation is
reflexive and transitive, it holds between any two stages of a run.

* `Field.succeeds_transform`: one step of a run.
* `Field.exists_tags_transform_eq`: the tags that one step brings in.
* `Field.transformAll_frame`: whole runs. -/

namespace Tablewright.Field

/-- Apply several options, one after the other. -/
def transformAll (os : List Options) (f : Field) : Field :=
  os.foldl (fun f o => f.transform o) f

@[simp] theorem transformAll_nil (f : Field) : f.transformAll [] = f := rfl

/-- Options that are applied last see what all others have left. -/
theorem transformAll_append (os os' : List Options) (f : Field) :
    f.transformAll (os ++ os') = (f.transformAll os).transformAll os' :=
  List.foldl_append

/-- The last options are applied last. -/
theorem transformAll_concat (os : List Options) (o : Options) (f : Field) :
    f.transformAll (os ++ [o]) = (f.transformAll os).transform o :=
  transformAll_append os [o] f

/-! ## What a step keeps -/

/-- The field `g` can be a later stage of `f`: it belongs to the same column, has a pointer only if `f`
has one, and has the tags of `f` in front of its own. -/
structure Succeeds (g f : Field) : Prop where
  name_eq : g.name = f.name
  comment_eq : g.comment = f.comment
  nullable_eq : g.nullable = f.nullable
  column?_eq : g.column? = f.column?
  goName_eq : g.goName = f.goName
  kind_eq : g.kind = f.kind
  goPointer_imp : g.goPointer = true → f.goPointer = true
  tags_prefix : f.tags <+: g.tags

theorem Succeeds.refl (f : Field) : f.Succeeds f :=
  ⟨rfl, rfl, rfl, rfl, rfl, rfl, id, List.prefix_rfl⟩

/-- A field that succeeds one that succeeds another succeeds that one. -/
theorem Succeeds.trans {f g h : Field} (hg : h.Succeeds g) (hf : g.Succeeds f) : h.Succeeds f where
  name_eq := hg.name_eq.trans hf.name_eq
  comment_eq := hg.comment_eq.trans hf.comment_eq
  nullable_eq := hg.nullable_eq.trans hf.nullable_eq
  column?_eq := hg.column?_eq.trans hf.column?_eq
  goName_eq := hg.goName_eq.trans hf.goName_eq
  kind_eq := hg.kind_eq.trans hf.kind_eq
  goPointer_imp h := hf.goPointer_imp (hg.goPointer_imp h)
  tags_prefix := hf.tags_prefix.trans hg.tags_prefix

/-- The type after a step is what the rules put in, or else the one before it. -/
theorem goType_transform (o : Options) (f : Field) :
    (f.transform o).goType = (f.ruledType? o).getD f.goType := by
  rw [transform, retype_eq]
  rfl

/-- The pointer is there after a step if it was and the rules do not take it. -/
theorem goPointer_transform (o : Options) (f : Field) :
    (f.transform o).goPointer = (f.goPointer && !f.dropsPointer o) := by
  rw [transform, retype_eq]
  rfl

/-- A pointer that is there after a step was there before it. -/
theorem goPointer_of_transform {o : Options} {f : Field} (h : (f.transform o).goPointer = true) :
    f.goPointer = true := by
  rw [goPointer_transform, Bool.and_eq_true] at h
  exact h.1

/-- Tags that are added come behind the ones that are there, each new one once. -/
theorem exists_foldl_addTag_eq (tags new : List String) :
    ∃ added, new.foldl addTag tags = tags ++ added ∧ added.Sublist new ∧ added.Nodup ∧
      ∀ tag, tag ∈ added ↔ tag ∈ new ∧ tag ∉ tags :=
  exists_foldl_add_eq_append (fun _ _ => rfl) tags new

/-- The tags after a step: the rules have no part in them. -/
theorem tags_transform (o : Options) (f : Field) :
    (f.transform o).tags = (requestedTags o f).foldl addTag f.tags := by
  have htags : (f.retype o).tags = f.tags := by
    rw [retype_eq]
  have hrequested : requestedTags o (f.retype o) = requestedTags o f := by
    rw [retype_eq]
    exact requestedTags_congr o rfl rfl
  rw [transform, retag, htags, hrequested]

/-- **One step of a run.** -/
theorem succeeds_transform (o : Options) (f : Field) : (f.transform o).Succeeds f where
  name_eq := name_transform o f
  comment_eq := comment_transform o f
  nullable_eq := nullable_transform o f
  column?_eq := column?_transform o f
  goName_eq := goName_transform o f
  kind_eq := kind_transform o f
  goPointer_imp := goPointer_of_transform
  tags_prefix := by
    obtain ⟨added, hadded, -⟩ := exists_foldl_addTag_eq f.tags (requestedTags o f)
    rw [tags_transform, hadded]
    exact List.prefix_append f.tags added

/-- **Every stage of a run can follow every earlier one.** -/
theorem succeeds_transformAll (os : List Options) (f : Field) : (f.transformAll os).Succeeds f := by
  induction os generalizing f with
  | nil => exact .refl f
  | cons o os ih => exact (ih (f.transform o)).trans (succeeds_transform o f)

/-! ## What a step brings in -/

/-- The names and values of the tags that the options ask for, in order. -/
def requestedValues (o : Options) (f : Field) : List (String × String) :=
  o.tags.entries.filterMap fun e => (tagValue? o f e.1 e.2).map fun value => (e.1, value)

/-- The requested tags are the requested values, written out. -/
theorem map_renderTag_requestedValues (o : Options) (f : Field) :
    (requestedValues o f).map (fun t => renderTag t.1 t.2) = requestedTags o f := by
  simp only [requestedValues, requestedTags, List.map_filterMap, Option.map_map]
  rfl

/-- No tag name is asked for twice, and they are asked for in the order in which the options have
them. -/
theorem names_requestedValues_sublist (o : Options) (f : Field) :
    ((requestedValues o f).map Prod.fst).Sublist o.tags.keys := by
  rw [requestedValues, Dict.keys]
  induction o.tags.entries with
  | nil => exact .slnil
  | cons e entries ih =>
      cases hvalue : tagValue? o f e.1 e.2 with
      | none =>
          rw [List.filterMap_cons_none (by rw [hvalue]; rfl)]
          exact ih.cons e.1
      | some value =>
          rw [List.filterMap_cons_some (b := (e.1, value)) (by rw [hvalue]; rfl)]
          exact ih.cons_cons e.1

/-- **The tags that a step brings in** are those that the options ask for and that are not there yet:
at most one for each name, in ascending order of the names, and no tag twice. -/
theorem exists_tags_transform_eq (o : Options) (f : Field) :
    ∃ added : List (String × String),
      (f.transform o).tags = f.tags ++ added.map (fun t => renderTag t.1 t.2) ∧
      (added.map Prod.fst).Sublist o.tags.keys ∧
      (added.map fun t => renderTag t.1 t.2).Nodup ∧
      ∀ tag, tag ∈ added.map (fun t => renderTag t.1 t.2) ↔
        tag ∈ requestedTags o f ∧ tag ∉ f.tags := by
  obtain ⟨tags, hfold, hsublist, hnodup, hmem⟩ :=
    exists_foldl_addTag_eq f.tags (requestedTags o f)
  rw [← map_renderTag_requestedValues] at hsublist
  obtain ⟨added, hadded, rfl⟩ := List.sublist_map_iff.mp hsublist
  exact ⟨added, (tags_transform o f).trans hfold,
    (hadded.map Prod.fst).trans (names_requestedValues_sublist o f), hnodup, hmem⟩

/-! ## Runs -/

/-- **What any run of options leaves alone, and what each step adds.** Whatever options are applied to a
field one after the other, its names, its comment, its column and that column's nullability and kind
stay as they are, a pointer that it has lost does not come back, and its tags stay in front of all that
come later. Each step puts its tags behind those that are there: tags that it is asked for and that are
not there yet, none of them twice, at most one for each tag name of the options, in strictly ascending
order of these names. -/
theorem transformAll_frame (f : Field) :
    (∀ os, (f.transformAll os).name = f.name ∧ (f.transformAll os).comment = f.comment ∧
      (f.transformAll os).nullable = f.nullable ∧ (f.transformAll os).column? = f.column? ∧
      (f.transformAll os).goName = f.goName ∧ (f.transformAll os).kind = f.kind) ∧
    (∀ os os', ((f.transformAll os).goPointer = false →
        (f.transformAll (os ++ os')).goPointer = false) ∧
      (f.transformAll os).tags <+: (f.transformAll (os ++ os')).tags) ∧
    ∀ os o, ∃ added : List (String × String),
      (f.transformAll (os ++ [o])).tags =
        (f.transformAll os).tags ++ added.map (fun t => renderTag t.1 t.2) ∧
      (added.map Prod.fst).Pairwise (· < ·) ∧ (added.map Prod.fst).Sublist o.tags.keys ∧
      (added.map fun t => renderTag t.1 t.2).Nodup ∧
      ∀ tag, tag ∈ added.map (fun t => renderTag t.1 t.2) ↔
        tag ∈ requestedTags o f ∧ tag ∉ (f.transformAll os).tags := by
  refine ⟨fun os => ?_, fun os os' => ?_, fun os o => ?_⟩
  · obtain ⟨hname, hcomment, hnull, hcolumn, hgo, hkind, -, -⟩ := succeeds_transformAll os f
    exact ⟨hname, hcomment, hnull, hcolumn, hgo, hkind⟩
  · have hlater := succeeds_transformAll os' (f.transformAll os)
    rw [transformAll_append]
    refine ⟨fun hnone => Bool.eq_false_iff.mpr fun hsome => ?_, hlater.tags_prefix⟩
    rw [hlater.goPointer_imp hsome] at hnone
    contradiction
  · -- what is asked for depends on the column only, so it is the same at every stage
    have hstage := succeeds_transformAll os f
    have hrequested : requestedTags o (f.transformAll os) = requestedTags o f :=
      requestedTags_congr o hstage.name_eq hstage.comment_eq
    obtain ⟨added, htags, hnames, hnodup, hmem⟩ := exists_tags_transform_eq o (f.transformAll os)
    rw [hrequested] at hmem
    rw [transformAll_concat]
    exact ⟨added, htags, o.tags.pairwise_keys.sublist hnames, hnames, hnodup, hmem⟩

end Tablewright.Field

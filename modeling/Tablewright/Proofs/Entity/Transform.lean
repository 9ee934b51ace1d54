import Tablewright.Entity.Tags
import Tablewright.Proofs.Lists

/-! # Applying the options to a field

The type rules overwrite one another, yet what they make of a field is decided by three things that
none of them changes: the name of its column, whether that is nullable, and its kind. `retype_eq`
writes their result down in one piece, by what is put in the place of the type (`ruledType?`) and of
the accessor type (`ruledRapier?`), and by when the pointer is dropped (`dropsPointer`). The tags that
the options ask for depend on the name and the comment only.

* `retype_eq`: the result of all type rules.
* `transform_transform`: the options are applied to a field in one go. -/

namespace Tablewright

namespace GoType

/-- A type given by its name keeps the kind. -/
@[simp] theorem kind_ofIdent (kind : ColumnKind) (ident pkgPath : String) :
    (ofIdent kind ident pkgPath).kind = kind := rfl

/-- The type for soft deletion keeps the kind. -/
@[simp] theorem kind_softDelete (kind : ColumnKind) : (softDelete kind).kind = kind := rfl

/-- The nullable wrapper of a kind stands for that kind. -/
theorem kind_of_sqlNull? {kind : ColumnKind} {wrapper : GoType} (h : sqlNull? kind = some wrapper) :
    wrapper.kind = kind := by
  obtain ⟨ident, -, rfl⟩ := Option.map_eq_some_iff.mp h
  rfl

end GoType

namespace Field

/-! ## The type rules in one piece -/

/-- The integer type that a kind is written as under some options, and its accessor type. -/
def integerForm? (o : Options) (kind : ColumnKind) : Option (String × RapierKind) :=
  if o.enableBoolInt && kind == .bool then some ("int", .int) else widened? o kind

/-- The wrapper that a field gets instead of a pointer, if it gets one. -/
def nullWrapper? (o : Options) (f : Field) : Option GoType :=
  if o.disableNullToPoint && f.nullable then GoType.sqlNull? f.kind else none

/-- The type that the rules put in the place of the field's own, if they do. -/
def ruledType? (o : Options) (f : Field) : Option GoType :=
  if f.marksDeleted then some (.softDelete f.kind)
  else (f.nullWrapper? o).or ((integerForm? o f.kind).map fun i => .ofIdent f.kind i.1 "")

/-- The accessor type that the rules put in the place of the field's own, if they do. -/
def ruledRapier? (o : Options) (f : Field) : Option RapierKind :=
  if f.marksDeleted then none else (integerForm? o f.kind).map Prod.snd

/-- Do the rules take the pointer from the field? -/
def dropsPointer (o : Options) (f : Field) : Bool :=
  f.marksDeleted || (f.nullWrapper? o).isSome

/-- Widening and the rule for booleans never meet, so together they put the integer form, if there is
one, in the place of the type. -/
theorem boolToInt_widen (o : Options) (f : Field) :
    boolToInt o (widen o f) =
      { f with
        goType := ((integerForm? o f.kind).map fun i => .ofIdent f.kind i.1 "").getD f.goType
        rapierKind := ((integerForm? o f.kind).map Prod.snd).getD f.rapierKind } := by
  by_cases hbool : f.kind = .bool
  · -- a boolean is not widened
    have hwiden : widen o f = f := by
      rw [widen, hbool]
      rfl
    rw [hwiden, boolToInt, integerForm?, hbool]
    cases o.enableBoolInt <;> simp [widened?]
  · -- the rule for booleans leaves any other kind alone, widened or not
    have hkind : (widen o f).kind = f.kind := by
      rw [widen]
      split <;> rfl
    have hform : integerForm? o f.kind = widened? o f.kind := by
      simp [integerForm?, hbool]
    have hkept : boolToInt o (widen o f) = widen o f := by
      simp [boolToInt, hkind, hbool]
    rw [hkept, hform, widen]
    cases widened? o f.kind <;> rfl

/-- The wrapper of a nullable field goes into the place of its type, and its pointer is dropped. -/
theorem wrapNull_eq (o : Options) (f : Field) :
    wrapNull o f =
      { f with
        goType := (f.nullWrapper? o).getD f.goType
        goPointer := f.goPointer && !(f.nullWrapper? o).isSome } := by
  rw [wrapNull, nullWrapper?]
  by_cases hnull : (o.disableNullToPoint && f.nullable) = true
  · rw [if_pos hnull, if_pos hnull]
    cases GoType.sqlNull? f.kind <;> simp
  · rw [if_neg hnull, if_neg hnull]
    simp

/-- Fields of one kind and one nullability get the same wrapper. -/
theorem nullWrapper?_congr (o : Options) {f g : Field} (hnull : f.nullable = g.nullable)
    (hkind : f.kind = g.kind) : f.nullWrapper? o = g.nullWrapper? o := by
  rw [nullWrapper?, nullWrapper?, hnull, hkind]

/-- **The result of the type rules.** -/
theorem retype_eq (o : Options) (f : Field) :
    f.retype o =
      { f with
        goType := (f.ruledType? o).getD f.goType
        rapierKind := (f.ruledRapier? o).getD f.rapierKind
        goPointer := f.goPointer && !f.dropsPointer o } := by
  by_cases hmark : f.marksDeleted = true
  · simp [retype, hmark, withMarker, ruledType?, ruledRapier?, dropsPointer]
  · -- the wrapper is asked for by the kind, which the integer form has kept
    have hwrapper : (boolToInt o (widen o f)).nullWrapper? o = f.nullWrapper? o := by
      rw [boolToInt_widen]
      refine nullWrapper?_congr o rfl ?_
      rw [kind]
      cases integerForm? o f.kind <;> rfl
    rw [retype, if_neg hmark, wrapNull_eq, hwrapper, boolToInt_widen]
    cases h : f.nullWrapper? o <;> simp [ruledType?, ruledRapier?, dropsPointer, hmark, h]

/-! ## What the options leave alone -/

/-- Options leave the column name of a field. -/
@[simp] theorem name_transform (o : Options) (f : Field) : (f.transform o).name = f.name := by
  rw [transform, retype_eq]
  rfl

/-- Options leave the comment of a field. -/
@[simp] theorem comment_transform (o : Options) (f : Field) :
    (f.transform o).comment = f.comment := by
  rw [transform, retype_eq]
  rfl

/-- Options leave whether a field may be null. -/
@[simp] theorem nullable_transform (o : Options) (f : Field) :
    (f.transform o).nullable = f.nullable := by
  rw [transform, retype_eq]
  rfl

/-- Options leave the column a field comes from. -/
@[simp] theorem column?_transform (o : Options) (f : Field) :
    (f.transform o).column? = f.column? := by
  rw [transform, retype_eq]
  rfl

/-- Options leave the name a field has in the code. -/
@[simp] theorem goName_transform (o : Options) (f : Field) :
    (f.transform o).goName = f.goName := by
  rw [transform, retype_eq]
  rfl

/-- A type that the rules put in stands for the kind of the field. -/
theorem kind_of_ruledType? {o : Options} {f : Field} {t : GoType} (h : f.ruledType? o = some t) :
    t.kind = f.kind := by
  rw [ruledType?] at h
  split at h
  · -- the soft-delete marker
    obtain rfl := Option.some.inj h
    rfl
  · -- the wrapper, or else the integer form
    rcases Option.or_eq_some_iff.mp h with hwrapper | ⟨-, hint⟩
    · rw [nullWrapper?] at hwrapper
      split at hwrapper
      · exact GoType.kind_of_sqlNull? hwrapper
      · contradiction
    · obtain ⟨i, -, rfl⟩ := Option.map_eq_some_iff.mp hint
      rfl

/-- **No rule changes the kind.** -/
@[simp] theorem kind_retype (o : Options) (f : Field) : (f.retype o).kind = f.kind := by
  rw [retype_eq, kind]
  cases h : f.ruledType? o with
  | none => rfl
  | some t => exact kind_of_ruledType? h

/-- Options leave the kind of a field. -/
@[simp] theorem kind_transform (o : Options) (f : Field) : (f.transform o).kind = f.kind :=
  kind_retype o f

/-! ## The rules a second time -/

/-- Fields of one name, one kind and one nullability are under the same rules. -/
theorem rules_congr (o : Options) {f g : Field} (hname : f.name = g.name)
    (hnull : f.nullable = g.nullable) (hkind : f.kind = g.kind) :
    f.ruledType? o = g.ruledType? o ∧ f.ruledRapier? o = g.ruledRapier? o ∧
      f.dropsPointer o = g.dropsPointer o := by
  have hmark : f.marksDeleted = g.marksDeleted := by
    rw [marksDeleted, marksDeleted, hname, hkind]
  have hwrapper : f.nullWrapper? o = g.nullWrapper? o := nullWrapper?_congr o hnull hkind
  refine ⟨?_, ?_, ?_⟩
  · rw [ruledType?, ruledType?, hmark, hwrapper, hkind]
  · rw [ruledRapier?, ruledRapier?, hmark, hkind]
  · rw [dropsPointer, dropsPointer, hmark, hwrapper]

/-- The rules that a field is under are the same after the rules of any options. -/
theorem rules_retype (o o' : Options) (f : Field) :
    (f.retype o').ruledType? o = f.ruledType? o ∧ (f.retype o').ruledRapier? o = f.ruledRapier? o ∧
      (f.retype o').dropsPointer o = f.dropsPointer o := by
  refine rules_congr o ?_ ?_ (kind_retype o' f)
  · rw [retype_eq]
  · rw [retype_eq]

/-- Choosing the type a second time changes nothing. -/
theorem retype_retype (o : Options) (f : Field) : (f.retype o).retype o = f.retype o := by
  obtain ⟨htype, hrapier, hpointer⟩ := rules_retype o o f
  rw [retype_eq o (f.retype o), htype, hrapier, hpointer, retype_eq o f]
  -- what a rule puts in, it puts in again; what no rule replaces, stays
  cases f.ruledType? o <;> cases f.ruledRapier? o <;> simp

/-! ## Tags -/

/-- Adding tags keeps those that are there and brings in all that are added. -/
theorem mem_foldl_addTag {tags new : List String} {tag : String} :
    tag ∈ new.foldl addTag tags ↔ tag ∈ tags ∨ tag ∈ new :=
  mem_foldl_add fun _ _ => rfl

/-- Adding tags that are all there changes nothing. -/
theorem foldl_addTag_eq_self {tags new : List String} (h : ∀ tag ∈ new, tag ∈ tags) :
    new.foldl addTag tags = tags :=
  foldl_add_eq_self (fun _ _ => rfl) h

/-- Fields of one name and one comment are asked for the same tags. -/
theorem requestedTags_congr (o : Options) {f g : Field} (hname : f.name = g.name)
    (hcomment : f.comment = g.comment) : requestedTags o f = requestedTags o g := by
  have hvalue : tagValue? o f = tagValue? o g := by
    funext tag style
    rw [tagValue?, tagValue?, hname, hcomment]
  rw [requestedTags, requestedTags, hvalue]

/-- The type rules neither read nor write tags. -/
theorem retype_withTags (o : Options) (f : Field) (tags : List String) :
    ({ f with tags := tags } : Field).retype o = { f.retype o with tags := tags } := by
  rw [retype_eq, retype_eq]
  rfl

/-- **Applying the options a second time changes nothing.** The rules put in again what they have put
in, and the tags that are asked for are all there. -/
theorem transform_transform (o : Options) (f : Field) :
    (f.transform o).transform o = f.transform o := by
  -- the rules pass over the tags that the first time has added
  have htype : (f.transform o).retype o = f.transform o := by
    rw [transform, retag, retype_withTags, retype_retype]
  have htags : requestedTags o (f.transform o) = requestedTags o (f.retype o) :=
    requestedTags_congr o rfl rfl
  have hthere : ∀ tag ∈ requestedTags o (f.transform o), tag ∈ (f.transform o).tags := by
    intro tag htag
    rw [htags] at htag
    exact mem_foldl_addTag.mpr (Or.inr htag)
  rw [transform, htype, retag, foldl_addTag_eq_self hthere]

end Field

end Tablewright

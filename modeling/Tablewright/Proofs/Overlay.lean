import Mathlib.Data.List.Forall2
import Mathlib.Data.List.Induction
import Tablewright.Overlay
import Tablewright.Proofs.Dict

/-! # Overlays as actions on options

An overlay changes options in three ways that do not touch one another. The switches that it names
are turned on, and none is turned off. A tag gets the style of its last mention, whatever was said of
it before (`get?_foldl_setTag`). Names to escape come behind the ones that are there, each of them
once. All else stays. So two overlays in a row are one that says what both say, and saying something
again changes nothing.

* `get?_tags_apply`: what becomes of a tag.
* `exists_escapeName_apply`: which names are added.
* `apply_append`: two overlays in a row.
* `apply_apply`: an overlay that is laid twice.
* `apply_laws`: all of this in one. -/

namespace Tablewright

/-- The switches of options. -/
def Options.switches (o : Options) : List Bool :=
  [o.enableInt, o.enableIntegerInt, o.enableBoolInt, o.disableNullToPoint, o.enableForeignKey,
    o.ignoreOmitempty, o.disableCommentTag]

namespace Overlay

/-! ## Switches -/

/-- The switches that an overlay turns on, in the same order. -/
def switches (a : Overlay) : List Bool :=
  [a.enableInt, a.enableIntegerInt, a.enableBoolInt, a.disableNullToPoint, a.enableForeignKey,
    a.ignoreOmitempty, a.disableCommentTag]

/-- Each switch is on that was on or is turned on. -/
theorem switches_apply (a : Overlay) (base : Options) :
    (a.apply base).switches = List.zipWith (· || ·) base.switches a.switches := rfl

/-- A switch that is on stays on. -/
theorem forall₂_switches_apply (a : Overlay) (base : Options) :
    List.Forall₂ (fun was is => was = true → is = true) base.switches (a.apply base).switches := by
  have hor : ∀ {was on : Bool}, was = true → (was || on) = true := fun h => by rw [h, Bool.true_or]
  exact .cons hor (.cons hor (.cons hor (.cons hor (.cons hor (.cons hor (.cons hor .nil))))))

/-! ## Tags -/

/-- What an overlay says of a tag when it mentions it last. -/
def lastStyle? (a : Overlay) (tag : String) : Option String :=
  a.tags.reverse.lookup tag

/-- What a tag has after a mention: an empty style is none. -/
def styleAfter? (style : String) : Option String :=
  if style = "" then none else some style

/-- The tag that is set has the style its value stands for. -/
theorem get?_setTag_self (tags : Dict String) (m : String × String) :
    (setTag tags m).get? m.1 = styleAfter? m.2 := by
  rw [setTag, styleAfter?]
  by_cases h : m.2 = ""
  · rw [if_pos h, if_pos h, Dict.get?_erase_self]
  · rw [if_neg h, if_neg h, Dict.get?_insert_self]

/-- Setting one tag leaves the others. -/
theorem get?_setTag_of_ne (tags : Dict String) {m : String × String} {tag : String}
    (h : tag ≠ m.1) : (setTag tags m).get? tag = tags.get? tag := by
  rw [setTag]
  split
  · exact Dict.get?_erase_of_ne tags h
  · exact Dict.get?_insert_of_ne tags h m.2

/-- The last mention of a tag decides about it. -/
theorem get?_foldl_setTag (mentions : List (String × String)) (tags : Dict String) (tag : String) :
    (mentions.foldl setTag tags).get? tag =
      match mentions.reverse.lookup tag with
      | some style => styleAfter? style
      | none => tags.get? tag := by
  -- from the end, for the last mention is the last step
  induction mentions using List.reverseRecOn with
  | nil => rfl
  | append_singleton mentions m ih =>
      rw [List.foldl_concat, List.reverse_concat, List.lookup_cons]
      by_cases h : tag = m.1
      · subst h
        rw [get?_setTag_self, BEq.refl]
      · rw [get?_setTag_of_ne _ h, ih, beq_eq_false_iff_ne.mpr h]

/-- **A tag gets the style of its last mention**, and one that is not mentioned stays as it is. -/
theorem get?_tags_apply (a : Overlay) (base : Options) (tag : String) :
    (a.apply base).tags.get? tag =
      match a.lastStyle? tag with
      | some style => styleAfter? style
      | none => base.tags.get? tag :=
  get?_foldl_setTag a.tags base.tags tag

/-- Setting the same tags again changes nothing. -/
theorem foldl_setTag_foldl_setTag (mentions : List (String × String)) (tags : Dict String) :
    mentions.foldl setTag (mentions.foldl setTag tags) = mentions.foldl setTag tags := by
  refine Dict.ext_get? fun tag => ?_
  rw [get?_foldl_setTag, get?_foldl_setTag]
  cases mentions.reverse.lookup tag with
  | some style => rfl
  | none => rfl

/-! ## Names to escape -/

/-- **Names are added behind the others**: each one that is new, once. -/
theorem exists_escapeName_apply (a : Overlay) (base : Options) :
    ∃ added, (a.apply base).escapeName = base.escapeName ++ added ∧ added.Sublist a.escapeName ∧
      added.Nodup ∧ ∀ name, name ∈ added ↔ name ∈ a.escapeName ∧ name ∉ base.escapeName :=
  exists_foldl_add_eq_append (fun _ _ => rfl) base.escapeName a.escapeName

/-- Adding the same names again changes nothing. -/
theorem foldl_addName_foldl_addName (new names : List String) :
    new.foldl addName (new.foldl addName names) = new.foldl addName names :=
  foldl_add_eq_self (fun _ _ => rfl) fun _ hname =>
    (mem_foldl_add fun _ _ => rfl).mpr (Or.inr hname)

/-! ## Overlays in a row -/

/-- **Two overlays in a row are one** that says what the first says and then what the second says. -/
theorem apply_append (a b : Overlay) (base : Options) :
    (a ++ b).apply base = b.apply (a.apply base) := by
  show (append a b).apply base = _
  simp only [apply, append, List.foldl_append, Bool.or_assoc]

/-- **An overlay that is laid twice does what it does once.** -/
theorem apply_apply (a : Overlay) (base : Options) : a.apply (a.apply base) = a.apply base := by
  simp only [apply, Bool.or_assoc, Bool.or_self, foldl_setTag_foldl_setTag,
    foldl_addName_foldl_addName]

/-- **What overlays do to options.** They act: two in a row are one that says what both say, and one
that is laid twice does what it does once. A switch is on if it was on or is turned on, so one that is
on stays on. A tag gets the style of its last mention, or is dropped if that is empty, and all other
tags stay. The names to escape stay in their order, and of the others each is added once. The
replacement types stay. -/
theorem apply_laws (a b : Overlay) (base : Options) :
    (a ++ b).apply base = b.apply (a.apply base) ∧
      a.apply (a.apply base) = a.apply base ∧
      (a.apply base).switches = List.zipWith (· || ·) base.switches a.switches ∧
      List.Forall₂ (fun was is => was = true → is = true) base.switches (a.apply base).switches ∧
      (∀ tag, (a.apply base).tags.get? tag =
        match a.lastStyle? tag with
        | some style => styleAfter? style
        | none => base.tags.get? tag) ∧
      (∃ added, (a.apply base).escapeName = base.escapeName ++ added ∧
        added.Sublist a.escapeName ∧ added.Nodup ∧
        ∀ name, name ∈ added ↔ name ∈ a.escapeName ∧ name ∉ base.escapeName) ∧
      (a.apply base).typeOverrides = base.typeOverrides :=
  ⟨apply_append a b base, apply_apply a base, switches_apply a base, forall₂_switches_apply a base,
    get?_tags_apply a base, exists_escapeName_apply a base, rfl⟩

end Overlay

end Tablewright

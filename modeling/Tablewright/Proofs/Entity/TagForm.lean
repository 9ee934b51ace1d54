import Tablewright.Proofs.Entity.Runs
import Tablewright.Proofs.Naming.Ascii

/-! # The form of struct tags

A tag that the options ask for holds the name of the column, spelled in a style. Of a name in ASCII no style
leaves anything but letters, digits, `_` and `-`, so nothing in it ends the quotes around the value or the
backticks around the tag. `Tagging` goes through the tags that the options ask for one by one and says of
each what becomes of it, and why.

* `tagging_iff`: a run of it ends with the tags that a field has once the options are applied.
* `Tagging.exists_eq_append`: all that it adds has the form of `styledTag`.
* `tags_styled`: both for fields whose names are in ASCII and whose comments give the `json` tag no value. -/

namespace Tablewright.Field

open Naming (IsAsciiName Style)

variable {o : Options} {f : Field} {entries : List (String × String)} {tags result : List String}

/-! ## Words and tags -/

/-- What may stand in a tag: letters, digits, `_` and `-`, and at least one of them. -/
def IsTagWord (word : String) : Prop :=
  word ≠ "" ∧ ∀ c ∈ word.toList, c.isAlphanum = true ∨ c = '_' ∨ c = '-'

/-- The tag with a word for its value. Behind the word stand `,omitempty`, unless the options leave it off,
and `,string`, if the tag is `json` and the comment asks for it. -/
def styledTag (o : Options) (f : Field) (tag word : String) : String :=
  tag ++ ":\"" ++ word ++ (if o.ignoreOmitempty = true then "" else ",omitempty") ++
    (if tag = "json" ∧ Comment.hasAffix f.comment = true then ",string" else "") ++ "\""

/-- A name in ASCII that is not empty in a style is a word there. -/
theorem isTagWord_apply (hname : IsAsciiName f.name) {style : Style} (h : style.apply f.name ≠ "") :
    IsTagWord (style.apply f.name) :=
  ⟨h, style.mem_apply_of_isAsciiName hname⟩

/-- What the options ask for if the comment gives no value of its own. -/
theorem map_renderTag_tagValue? (hcomment : Comment.jsonTag? f.comment = none) (tag style : String) :
    (tagValue? o f tag style).map (renderTag tag) =
      (Style.ofName? style).bind fun style =>
        if style.apply f.name = "" then none else some (styledTag o f tag (style.apply f.name)) := by
  have hdirective : (if tag = "json" then Comment.jsonTag? f.comment else none) = none := by
    rw [hcomment, ite_self]
  rw [tagValue?, hdirective]
  cases Style.ofName? style with
  | none => rfl
  | some style =>
      show Option.map (renderTag tag) (if style.apply f.name = "" then none else _) = _
      by_cases hempty : style.apply f.name = ""
      · rw [if_pos hempty, Option.bind_some, if_pos hempty, Option.map_none]
      · rw [if_neg hempty, Option.bind_some, if_neg hempty, Option.map_some]
        simp only [renderTag, styledTag, String.append_assoc, Bool.and_eq_true, beq_iff_eq]

/-! ## One tag after the other -/

/-- A run over the tags that the options ask for, by name and style, that starts with the tags that are
there. A tag of unknown style is skipped, and so is one for which nothing is left of the name of the column,
and one that is there. Any other is added behind those that are there. -/
inductive Tagging (o : Options) (f : Field) :
    List (String × String) → List String → List String → Prop
  | done {tags : List String} : Tagging o f [] tags tags
  | unknown {tag style : String} {entries : List (String × String)} {tags result : List String}
      (hstyle : Style.ofName? style = none) (rest : Tagging o f entries tags result) :
      Tagging o f ((tag, style) :: entries) tags result
  | empty {tag name : String} {style : Style} {entries : List (String × String)}
      {tags result : List String} (hstyle : Style.ofName? name = some style)
      (hword : style.apply f.name = "") (rest : Tagging o f entries tags result) :
      Tagging o f ((tag, name) :: entries) tags result
  | there {tag name : String} {style : Style} {entries : List (String × String)}
      {tags result : List String} (hstyle : Style.ofName? name = some style)
      (hword : IsTagWord (style.apply f.name))
      (hthere : styledTag o f tag (style.apply f.name) ∈ tags)
      (rest : Tagging o f entries tags result) : Tagging o f ((tag, name) :: entries) tags result
  | added {tag name : String} {style : Style} {entries : List (String × String)}
      {tags result : List String} (hstyle : Style.ofName? name = some style)
      (hword : IsTagWord (style.apply f.name))
      (hnew : styledTag o f tag (style.apply f.name) ∉ tags)
      (rest : Tagging o f entries (tags ++ [styledTag o f tag (style.apply f.name)]) result) :
      Tagging o f ((tag, name) :: entries) tags result

/-- The tags that are asked for in a list of names and styles, each added unless it is there. -/
def taggedWith (o : Options) (f : Field) (entries : List (String × String)) (tags : List String) :
    List String :=
  (entries.filterMap fun e => (tagValue? o f e.1 e.2).map (renderTag e.1)).foldl addTag tags

/-- Options add tags to those a field has, one entry after the other. -/
theorem tags_transform_eq_taggedWith (o : Options) (f : Field) :
    (f.transform o).tags = taggedWith o f o.tags.entries f.tags :=
  tags_transform o f

/-- The first entry adds its tag, if it has a value, before the others do. -/
theorem taggedWith_cons (tag name : String) (entries : List (String × String)) (tags : List String) :
    taggedWith o f ((tag, name) :: entries) tags =
      taggedWith o f entries (((tagValue? o f tag name).map (renderTag tag)).elim tags (addTag tags)) := by
  rw [taggedWith, List.filterMap_cons]
  cases (tagValue? o f tag name).map (renderTag tag) <;> rfl

/-- A tag of unknown style is not added. -/
theorem taggedWith_cons_of_unknown (hcomment : Comment.jsonTag? f.comment = none) {tag name : String}
    (hstyle : Style.ofName? name = none) (tags : List String) :
    taggedWith o f ((tag, name) :: entries) tags = taggedWith o f entries tags := by
  rw [taggedWith_cons, map_renderTag_tagValue? hcomment, hstyle]
  rfl

/-- A tag without a word is not added. -/
theorem taggedWith_cons_of_empty (hcomment : Comment.jsonTag? f.comment = none) {tag name : String}
    {style : Style} (hstyle : Style.ofName? name = some style) (hword : style.apply f.name = "")
    (tags : List String) :
    taggedWith o f ((tag, name) :: entries) tags = taggedWith o f entries tags := by
  rw [taggedWith_cons, map_renderTag_tagValue? hcomment, hstyle, Option.bind_some, if_pos hword]
  rfl

/-- A tag with a word is added unless it is there. -/
theorem taggedWith_cons_of_word (hcomment : Comment.jsonTag? f.comment = none) {tag name : String}
    {style : Style} (hstyle : Style.ofName? name = some style) (hword : style.apply f.name ≠ "")
    (tags : List String) :
    taggedWith o f ((tag, name) :: entries) tags =
      taggedWith o f entries (if styledTag o f tag (style.apply f.name) ∈ tags then tags
        else tags ++ [styledTag o f tag (style.apply f.name)]) := by
  rw [taggedWith_cons, map_renderTag_tagValue? hcomment, hstyle, Option.bind_some, if_neg hword,
    Option.elim_some, addTag]
  simp only [List.contains_iff_mem]

/-- **The tags that a field gets come from a run.** -/
theorem tagging_taggedWith (hname : IsAsciiName f.name)
    (hcomment : Comment.jsonTag? f.comment = none) (entries : List (String × String))
    (tags : List String) : Tagging o f entries tags (taggedWith o f entries tags) := by
  induction entries generalizing tags with
  | nil => exact .done
  | cons e entries ih =>
      obtain ⟨tag, name⟩ := e
      -- a tag is skipped for its style, for an empty name, or since it is there already
      cases hstyle : Style.ofName? name with
      | none =>
          rw [taggedWith_cons_of_unknown hcomment hstyle]
          exact .unknown hstyle (ih tags)
      | some style =>
          by_cases hempty : style.apply f.name = ""
          · rw [taggedWith_cons_of_empty hcomment hstyle hempty]
            exact .empty hstyle hempty (ih tags)
          · have hword := isTagWord_apply hname hempty
            rw [taggedWith_cons_of_word hcomment hstyle hempty]
            by_cases hthere : styledTag o f tag (style.apply f.name) ∈ tags
            · rw [if_pos hthere]
              exact .there hstyle hword hthere (ih tags)
            · rw [if_neg hthere]
              exact .added hstyle hword hthere (ih _)

/-- A run has no other end: what is said of a tag where it is skipped or added settles what the options
ask for. -/
theorem Tagging.eq_taggedWith (hcomment : Comment.jsonTag? f.comment = none)
    (h : Tagging o f entries tags result) : result = taggedWith o f entries tags := by
  induction h with
  | done => rfl
  | unknown hstyle _ ih =>
      rw [taggedWith_cons_of_unknown hcomment hstyle]
      exact ih
  | empty hstyle hword _ ih =>
      rw [taggedWith_cons_of_empty hcomment hstyle hword]
      exact ih
  | there hstyle hword hthere _ ih =>
      rw [taggedWith_cons_of_word hcomment hstyle hword.1, if_pos hthere]
      exact ih
  | added hstyle hword hnew _ ih =>
      rw [taggedWith_cons_of_word hcomment hstyle hword.1, if_neg hnew]
      exact ih

/-- **A run over the tags that the options ask for ends with the tags of the field once they are applied**,
and with no others. -/
theorem tagging_iff (hname : IsAsciiName f.name) (hcomment : Comment.jsonTag? f.comment = none) :
    Tagging o f o.tags.entries f.tags result ↔ result = (f.transform o).tags := by
  rw [tags_transform_eq_taggedWith]
  constructor
  · exact Tagging.eq_taggedWith hcomment
  · rintro rfl
    exact tagging_taggedWith hname hcomment _ _

/-- **What a run adds stands behind what is there**, and is a tag of the options with a word for its value:
the name of the column in the style that goes with the tag. -/
theorem Tagging.exists_eq_append (h : Tagging o f entries tags result) :
    ∃ added, result = tags ++ added ∧ ∀ text ∈ added, ∃ tag name style,
      (tag, name) ∈ entries ∧ Style.ofName? name = some style ∧ IsTagWord (style.apply f.name) ∧
        text = styledTag o f tag (style.apply f.name) := by
  induction h with
  | done => exact ⟨[], (List.append_nil _).symm, fun _ htext => absurd htext List.not_mem_nil⟩
  | unknown _ _ ih | empty _ _ _ ih | there _ _ _ _ ih =>
      obtain ⟨added, hresult, hadded⟩ := ih
      refine ⟨added, hresult, fun text htext => ?_⟩
      obtain ⟨tag, name, style, hmem, hrest⟩ := hadded text htext
      exact ⟨tag, name, style, List.mem_cons_of_mem _ hmem, hrest⟩
  | @added tag name style entries tags result hstyle hword _ _ ih =>
      obtain ⟨added, hresult, hadded⟩ := ih
      refine ⟨styledTag o f tag (style.apply f.name) :: added, ?_, fun text htext => ?_⟩
      · rw [hresult, List.append_assoc, List.singleton_append]
      · rcases List.mem_cons.1 htext with rfl | htext
        · exact ⟨tag, name, style, List.mem_cons_self, hstyle, hword, rfl⟩
        · obtain ⟨tag, name, style, hmem, hrest⟩ := hadded text htext
          exact ⟨tag, name, style, List.mem_cons_of_mem _ hmem, hrest⟩

/-! ## Fields with names in ASCII -/

/-- **The tags of a field whose name is in ASCII.** If the comment gives the `json` tag no value, the options
add tags of one form behind those that are there: the name of the tag, and in quotes a word made of the name
of the column, with its endings. A tag is left out if its style is unknown, if nothing is left of the name of
the column, or if it is there already, and for no other reason. -/
theorem tags_styled (o : Options) (f : Field) (hname : IsAsciiName f.name)
    (hcomment : Comment.jsonTag? f.comment = none) :
    (∃ added, (f.transform o).tags = f.tags ++ added ∧ ∀ text ∈ added, ∃ tag name style,
      (tag, name) ∈ o.tags.entries ∧ Style.ofName? name = some style ∧
        IsTagWord (style.apply f.name) ∧ text = styledTag o f tag (style.apply f.name)) ∧
      ∀ result, Tagging o f o.tags.entries f.tags result ↔ result = (f.transform o).tags := by
  have hrun : Tagging o f o.tags.entries f.tags (f.transform o).tags :=
    (tagging_iff hname hcomment).2 rfl
  exact ⟨hrun.exists_eq_append, fun result => tagging_iff hname hcomment⟩

/-- Quotes, backticks and backslashes in the name of a column do not get into its tags. Of the three tags
the `form` tag is there, the style of the `xml` tag is unknown, and the `json` tag is added. -/
theorem tags_styled_quotes :
    let f : Field := { bare "user \"id\x60\\" "owner [@affix]" .int64 false with
      tags := ["form:\"user-id,omitempty\""] }
    let o : Options := { Options.standard with
      tags := .ofList [("form", "kebab"), ("json", "snakeCase"), ("xml", "shouting")] }
    IsAsciiName f.name ∧ Comment.jsonTag? f.comment = none ∧
      Tagging o f o.tags.entries f.tags
        ["form:\"user-id,omitempty\"", "json:\"user_id,omitempty,string\""] := by
  intro f o
  have hname : IsAsciiName f.name := by decide +kernel
  have hcomment : Comment.jsonTag? f.comment = none := by decide +kernel
  exact ⟨hname, hcomment, ((tags_styled o f hname hcomment).2 _).2 (by decide +kernel)⟩

end Tablewright.Field

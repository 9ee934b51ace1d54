import Tablewright.Comment.Directive
import Tablewright.Entity.TypeRules

/-! # Struct tags

For every tag that the options ask for, in the order of the tag names, a field gets the name of its
column in the style of the tag. A directive in the comment may give the value of the `json` tag. A
tag of unknown style, or without a value, is skipped, and a tag that is there is not added again. -/

namespace Tablewright.Field

/-- The value of a tag, if it gets one. -/
def tagValue? (o : Options) (f : Field) (tag style : String) : Option String :=
  match if tag = "json" then Comment.jsonTag? f.comment else none with
  -- a value from the comment is taken as it is, whatever the style
  | some value => some value
  | none =>
    (Naming.Style.ofName? style).bind fun style =>
      let value := style.apply f.name
      if value = "" then none
      else some (value ++ (if o.ignoreOmitempty then "" else ",omitempty") ++
        (if tag == "json" && Comment.hasAffix f.comment then ",string" else ""))

/-- A tag as it is written. -/
def renderTag (tag value : String) : String :=
  tag ++ ":\"" ++ value ++ "\""

/-- Add a tag unless it is there. -/
def addTag (tags : List String) (tag : String) : List String :=
  if tags.contains tag then tags else tags ++ [tag]

/-- The tags that the options ask for, in order. -/
def requestedTags (o : Options) (f : Field) : List String :=
  o.tags.entries.filterMap fun e => (tagValue? o f e.1 e.2).map (renderTag e.1)

/-- Add the tags that the options ask for. -/
def retag (o : Options) (f : Field) : Field :=
  { f with tags := (requestedTags o f).foldl addTag f.tags }

/-- Apply the options to a field: first the type rules, then the tags. -/
def transform (o : Options) (f : Field) : Field :=
  (f.retype o).retag o

end Tablewright.Field

import Mathlib.Data.Bool.AllAny
import Mathlib.Data.List.Basic
import Tablewright.Proofs.Text.Lines
import Tablewright.Table.GormTag

/-! # The segments of a gorm tag

A tag is read by taking the text between its opening and its final quote and cutting it at semicolons
(`readSegments`). This gives the segments it was made of: comments may hold anything, as their
semicolons are replaced; names, types and defaults are written as they are and may hold none. The same
goes for the other characters that mean something to who reads a tag (`delimiters`): one that is in no
name, type, default or comment text is in no segment.

* `notMem_segments`: no segment holds a delimiter that the texts it is made of do not hold.
* `filterMap_segments`: what is read off the segments, part by part.
* `readSegments_tag`: a tag is read back as its segments. -/

namespace Tablewright

/-! ## Characters of cut and flattened texts -/

namespace Text

/-- Flattening brings in spaces and nothing else. -/
theorem mem_of_mem_flattenBreaks {c : Char} (hc : c ≠ ' ') {s : List Char}
    (h : c ∈ flattenBreaks s) : c ∈ s := by
  fun_induction flattenBreaks s with
  | case1 => exact h
  | case2 cs ih =>
      rcases List.mem_cons.mp h with rfl | h
      · contradiction
      · exact List.mem_cons_of_mem _ (List.mem_cons_of_mem _ (ih h))
  | case3 d cs _ ih =>
      rcases List.mem_cons.mp h with h | h
      · by_cases hd : (d == '\n') = true
        · rw [if_pos hd] at h
          contradiction
        · rw [if_neg hd] at h
          exact h ▸ List.mem_cons_self
      · exact List.mem_cons_of_mem _ (ih h)

/-- No line feed is left once line breaks are flattened. -/
theorem notMem_flattenBreaks (s : List Char) : '\n' ∉ flattenBreaks s := by
  fun_induction flattenBreaks s with
  | case1 => exact List.not_mem_nil
  | case2 cs ih => exact List.not_mem_cons_of_ne_of_not_mem (by decide) ih
  | case3 d cs _ ih =>
      refine List.not_mem_cons_of_ne_of_not_mem ?_ ih
      split
      · decide
      · rename_i hd
        exact fun heq => hd (beq_iff_eq.mpr heq.symm)

end Text

/-- The text of a default. -/
def ColumnDefault.text : ColumnDefault → String
  | literal v => v
  | expr e => e

namespace GormTag

variable {x : Char} {t : Table} {c : Column}

/-! ## What is free of delimiters -/

/-- The character that a tag is cut at, and those that could end it or the line that it is in. -/
def delimiters : List Char :=
  [';', '"', '\\', '\x60', '\n']

/-- The texts that are in tags beside what columns and indexes hold. -/
def fixedTexts : List String :=
  ["", "column:", "type:", "not null", "autoIncrement:true", "primaryKey", ",priority:", "default:",
    "default:null", "''", "uniqueIndex:", "index:", "comment:"]

/-- The fixed texts of a tag have no delimiter. -/
theorem notMem_fixedTexts (hx : x ∈ delimiters) : ∀ s ∈ fixedTexts, x ∉ s.toList := by
  have hall : delimiters.all fun x => ∀ s ∈ fixedTexts, x ∉ s.toList := by decide
  exact List.all_iff_forall_prop.mp hall x hx

/-- What a character of a comment becomes. -/
def commentChar (c : Char) : List Char :=
  if c = ';' then [','] else if c = '\x60' then ['\''] else if c = '"' then ['\\', '"'] else [c]

/-- The comment of a tag is trimmed, rewritten character by character and put on one line. -/
theorem toList_commentText (comment : String) :
    (commentText comment).toList =
      Text.flattenBreaks ((Text.trim comment.toList).flatMap commentChar) := by
  rw [commentText, Text.toList_onChars]
  rfl

/-- A comment is left without semicolons and backquotes. -/
theorem notMem_flatMap_commentChar (hx : x = ';' ∨ x = '\x60') (s : List Char) :
    x ∉ s.flatMap commentChar := by
  intro h
  obtain ⟨d, -, hd⟩ := List.mem_flatMap.mp h
  have hspecial : x ∉ [','] ∧ x ∉ ['\''] ∧ x ∉ ['\\', '"'] := by
    rcases hx with rfl | rfl <;> decide
  rw [commentChar] at hd
  split at hd
  · exact hspecial.1 hd
  split at hd
  · exact hspecial.2.1 hd
  split at hd
  · exact hspecial.2.2 hd
  -- what is left of the characters stands for itself
  rename_i hsemicolon hbacktick _
  obtain rfl := List.mem_singleton.mp hd
  exact hx.elim hsemicolon hbacktick

/-- A comment is written without semicolons, backticks and line feeds, whatever it holds. -/
theorem notMem_commentText (hx : x = ';' ∨ x = '\x60' ∨ x = '\n') (comment : String) :
    x ∉ (commentText comment).toList := by
  rw [toList_commentText]
  rcases hx with rfl | rfl | rfl
  · exact fun h => notMem_flatMap_commentChar (Or.inl rfl) _
      (Text.mem_of_mem_flattenBreaks (by decide) h)
  · exact fun h => notMem_flatMap_commentChar (Or.inr rfl) _
      (Text.mem_of_mem_flattenBreaks (by decide) h)
  · exact Text.notMem_flattenBreaks _

/-- The texts that the tag of a column is made of as they are hold no `x`. -/
structure Free (x : Char) (t : Table) (c : Column) : Prop where
  name : x ∉ c.name.toList
  rawType : x ∉ c.rawType.toList
  default : ∀ d, c.default? = some d → x ∉ d.text.toList
  indexNames : ∀ i ∈ t.indexes, x ∉ i.name.toList

/-- The texts that the tag of a column is made of as they are hold no semicolon. -/
structure Plain (t : Table) (c : Column) : Prop where
  name : ';' ∉ c.name.toList
  rawType : ';' ∉ c.rawType.toList
  default : ∀ d, c.default? = some d → ';' ∉ d.text.toList
  indexNames : ∀ i ∈ t.indexes, ';' ∉ i.name.toList

/-- A plain column has no semicolon in its texts. -/
theorem Plain.free (h : Plain t c) : Free ';' t c :=
  ⟨h.name, h.rawType, h.default, h.indexNames⟩

/-- A character in neither text is not in both joined. -/
theorem notMem_append {s s' : String} (hs : x ∉ s.toList) (hs' : x ∉ s'.toList) :
    x ∉ (s ++ s').toList := by
  rw [String.toList_append, List.mem_append, not_or]
  exact ⟨hs, hs'⟩

/-- A priority is a number. -/
theorem notMem_priority (hx : x ∈ delimiters) (i : Index) (position : Nat) :
    x ∉ (priority i position).toList := by
  have hall : delimiters.all fun x => x.isDigit = false := by decide
  have hdigit : x.isDigit = false := List.all_iff_forall_prop.mp hall x hx
  rw [priority]
  split
  · refine notMem_append (notMem_fixedTexts hx _ (by decide)) fun h => ?_
    rw [Nat.toString_eq_repr, Nat.toList_repr] at h
    rw [Nat.isDigit_of_mem_toDigits (by decide) (by decide) h] at hdigit
    contradiction
  · exact notMem_fixedTexts hx _ (by decide)

/-- The segments of a primary key have no delimiter. -/
theorem notMem_primarySegments (hx : x ∈ delimiters) (c : Column) (key : Index) (position : Nat) :
    ∀ s ∈ primarySegments c key position, x ∉ s.toList := by
  intro s hs
  rcases List.mem_append.mp hs with hs | hs
  · split at hs
    · rw [List.mem_singleton.mp hs]
      exact notMem_fixedTexts hx _ (by decide)
    · contradiction
  · rw [List.mem_singleton.mp hs]
    exact notMem_append (notMem_fixedTexts hx _ (by decide)) (notMem_priority hx key position)

/-- The segments of a default have a delimiter only if the default has. -/
theorem notMem_defaultSegments (hx : x ∈ delimiters)
    (h : ∀ d, c.default? = some d → x ∉ d.text.toList) :
    ∀ s ∈ defaultSegments c, x ∉ s.toList := by
  have hopening : x ∉ "default:".toList := notMem_fixedTexts hx _ (by decide)
  intro s hs
  rw [defaultSegments] at hs
  split at hs
  case h_1 v hdefault =>
    rw [List.mem_singleton.mp hs]
    refine notMem_append hopening ?_
    split
    · exact notMem_fixedTexts hx _ (by decide)
    · -- taking off quotes leaves a part of the default
      rw [ColumnDefault.unquoted, Text.toList_onChars]
      exact fun hmem => h _ hdefault ((Text.isInfix_trimOf _ _).mem hmem)
  case h_2 e hdefault =>
    rw [List.mem_singleton.mp hs]
    exact notMem_append hopening (h _ hdefault)
  case h_3 hdefault =>
    split at hs
    · rw [List.mem_singleton.mp hs]
      exact notMem_fixedTexts hx _ (by decide)
    · contradiction

/-- The segment of an index has a delimiter only if the name of the index has. -/
theorem notMem_indexSegment (hx : x ∈ delimiters) {i : Index} {column s : String}
    (hi : x ∉ i.name.toList) (h : indexSegment? column i = some s) : x ∉ s.toList := by
  obtain ⟨position, -, rfl⟩ := Option.map_eq_some_iff.mp h
  refine notMem_append (notMem_append ?_ hi) (notMem_priority hx i position)
  split
  · exact notMem_fixedTexts hx _ (by decide)
  · exact notMem_fixedTexts hx _ (by decide)

/-- **No segment holds a delimiter** that the texts it is made of do not hold. -/
theorem notMem_segments (hx : x ∈ delimiters) (h : Free x t c) {withComment : Bool}
    (hcomment : withComment = true → x ∉ (commentText c.comment).toList) :
    ∀ s ∈ segments t c withComment, x ∉ s.toList := by
  intro s hs
  simp only [segments, List.mem_append] at hs
  -- name, type, nullability, key or default, indexes, comment
  rcases hs with ((((hs | hs) | hs) | hs) | hs) | hs
  · rw [List.mem_singleton.mp hs]
    exact notMem_append (notMem_fixedTexts hx _ (by decide)) h.name
  · split at hs
    · contradiction
    · rw [List.mem_singleton.mp hs]
      exact notMem_append (notMem_fixedTexts hx _ (by decide)) h.rawType
  · split at hs
    · contradiction
    · rw [List.mem_singleton.mp hs]
      exact notMem_fixedTexts hx _ (by decide)
  · split at hs
    · exact notMem_primarySegments hx _ _ _ s hs
    · exact notMem_defaultSegments hx h.default s hs
  · obtain ⟨i, hi, hsegment⟩ := List.mem_filterMap.mp hs
    exact notMem_indexSegment hx (h.indexNames i (List.mem_of_mem_filter hi)) hsegment
  · split at hs
    case isTrue hshown =>
      rw [List.mem_singleton.mp hs]
      exact notMem_append (notMem_fixedTexts hx _ (by decide))
        (hcomment (Bool.and_eq_true_iff.mp hshown).1)
    case isFalse => contradiction

/-! ## The parts of a tag -/

/-- The openings of the segments that hold a text of the column itself. -/
def textOpenings : List String :=
  ["column:", "type:", "default:", "comment:"]

/-- **What reads nothing off the texts of a column** reads off the rest of its segments, part by part: that it
may not be null, its place in the primary key, and its places in other indexes. -/
theorem filterMap_segments {β : Type} {f : String → Option β}
    (hf : ∀ opening ∈ textOpenings, ∀ s, f (opening ++ s) = none) (t : Table) (c : Column)
    (withComment : Bool) :
    (segments t c withComment).filterMap f =
      (if c.nullable then [] else (f "not null").toList) ++
        ((keyPosition? t c).elim [] fun k => (primarySegments c k.1 k.2).filterMap f) ++
        t.secondaryIndexes.filterMap fun i => (indexSegment? c.name i).bind f := by
  -- every other segment starts as one of the openings, so nothing is taken from it
  have htext {opening : String} (h : opening ∈ textOpenings) (s : String) :
      [opening ++ s].filterMap f = [] :=
    List.filterMap_cons_none (hf opening h s)
  have hcolumn : ["column:" ++ c.name].filterMap f = [] := htext (by decide) _
  have hstored (b : Bool) : (if b then [] else ["type:" ++ c.rawType]).filterMap f = [] := by
    cases b with
    | true => rfl
    | false => exact htext (by decide) _
  have hnullable : (if c.nullable then [] else ["not null"]).filterMap f =
      if c.nullable then [] else (f "not null").toList := by
    cases c.nullable with
    | true => rfl
    | false => exact filterMap_singleton f _
  have hnull : ["default:" ++ "null"].filterMap f = [] := htext (by decide) _
  have hdefaults : (defaultSegments c).filterMap f = [] := by
    rw [defaultSegments]
    split
    · exact htext (by decide) _
    · exact htext (by decide) _
    · split
      · exact hnull
      · rfl
  have hcommented (b : Bool) :
      (if b then ["comment:" ++ commentText c.comment] else []).filterMap f = [] := by
    cases b with
    | true => exact htext (by decide) _
    | false => rfl
  rw [segments]
  simp only [List.filterMap_append, List.filterMap_filterMap, hcolumn, hstored, hnullable, hcommented,
    List.nil_append, List.append_nil]
  cases keyPosition? t c with
  | none => exact congrArg (_ ++ · ++ _) hdefaults
  | some k => rfl

/-! ## Reading a tag -/

/-- The text between the opening of a tag and its final quote, cut at semicolons. -/
def readSegments (tag : String) : List (List Char) :=
  match (tag.toList.dropPrefix? "gorm:\"".toList).bind fun s => s.dropSuffix? ['"'] with
  | some inside => inside.splitOn ';'
  | none => []

/-- **A tag is read back as its segments.** -/
theorem readSegments_tag (h : Plain t c) (withComment : Bool) :
    readSegments (tag t c withComment) = (segments t c withComment).map String.toList := by
  have hinside : ((tag t c withComment).toList.dropPrefix? "gorm:\"".toList).bind
      (fun s => s.dropSuffix? ['"']) =
        some (String.intercalate ";" (segments t c withComment)).toList := by
    rw [tag, String.toList_append, String.toList_append, List.append_assoc,
      List.dropPrefix?_append_of_beq _ (BEq.refl _), Option.bind_some, List.dropSuffix?_eq_some_iff]
    exact ⟨['"'], rfl, BEq.refl _⟩
  rw [readSegments, hinside, String.toList_intercalate]
  refine List.splitOn_intercalate ';' ?_ ?_
  · rw [List.forall_mem_map]
    exact notMem_segments (by decide) h.free fun _ => notMem_commentText (Or.inl rfl) c.comment
  · simp [segments]

end GormTag

end Tablewright

import Tablewright.Proofs.Comment.Directive

/-! # Comments without their directives

`strip` removes the directives of a comment, joins the words that are left by single spaces and cuts off
the separators at the end. What it returns is made of words with single spaces between them, but each of
its steps is taken once only: a directive that comes together where others were removed stays, and so do
the separators at the end of a word that stood in front of separators.

* `toList_strip`: the words of a stripped comment.
* `strip_strip_iff`: the comments that stay as they are when they are stripped again.
* `strip_normal_form`: what a stripped comment looks like. -/

namespace Tablewright.Comment

open Text (words joined trim trimRightOf IsWord)

/-- The characters that are cut off at the end of a comment. -/
def isSeparator (c : Char) : Bool :=
  c == ',' || c == ';'

/-- The last character of the text is a separator. -/
def EndsWithSeparator (s : List Char) : Prop :=
  ∃ c, s.getLast? = some c ∧ isSeparator c = true

/-- Stripping collapses the blanks of the prose, drops the separators at its end and trims the rest. -/
theorem toList_strip_eq_trim (comment : String) :
    (strip comment).toList = trim (trimRightOf isSeparator (joined (prose comment.toList))) := by
  rw [strip, Text.toList_onChars]
  rfl

/-! ## The words that are left -/

/-- The words without the separators at the end of the last one, which goes if nothing is left of it. -/
def strippedWords (ws : List (List Char)) : List (List Char) :=
  match ws.getLast? with
  | none => []
  | some w =>
    if trimRightOf isSeparator w = [] then ws.dropLast
    else ws.dropLast ++ [trimRightOf isSeparator w]

/-- The last word goes without the separators at its end, and goes as a whole if it has nothing else. -/
theorem strippedWords_concat (ws : List (List Char)) (w : List Char) :
    strippedWords (ws ++ [w]) =
      if trimRightOf isSeparator w = [] then ws else ws ++ [trimRightOf isSeparator w] := by
  rw [strippedWords, List.getLast?_concat, List.dropLast_concat]

/-- Words without the last one's separators are words. -/
theorem isWord_of_mem_strippedWords {ws : List (List Char)} (h : ∀ w ∈ ws, IsWord w) :
    ∀ w ∈ strippedWords ws, IsWord w := by
  rcases List.eq_nil_or_concat' ws with rfl | ⟨front, w, rfl⟩
  · exact h
  · obtain ⟨hfront, hw⟩ := List.forall_mem_append.mp h
    obtain ⟨-, hfree⟩ := hw w List.mem_cons_self
    rw [strippedWords_concat]
    split
    case isTrue => exact hfront
    case isFalse hne =>
      refine List.forall_mem_append.mpr ⟨hfront, List.forall_mem_singleton.mpr ⟨hne, ?_⟩⟩
      exact fun c hc => hfree c ((List.rdropWhile_prefix isSeparator w).subset hc)

/-- What cutting off separators leaves of joined words: the words that are left, and perhaps the space
in front of a word that went. -/
theorem exists_trimRightOf_intercalate (ws : List (List Char)) :
    ∃ tail, trimRightOf isSeparator (List.intercalate [' '] ws) =
        List.intercalate [' '] (strippedWords ws) ++ tail ∧ ∀ c ∈ tail, c = ' ' := by
  rcases List.eq_nil_or_concat' ws with rfl | ⟨front, w, rfl⟩
  · exact ⟨[], rfl, fun _ hc => by contradiction⟩
  rw [strippedWords_concat]
  by_cases hfront : front = []
  · refine ⟨[], ?_, fun _ hc => by contradiction⟩
    rw [hfront, List.nil_append, List.intercalate_singleton, List.append_nil]
    split
    case isTrue hnil => rw [hnil, List.intercalate_nil]
    case isFalse => rw [List.nil_append, List.intercalate_singleton]
  rw [Text.intercalate_concat hfront, Text.trimRightOf_append]
  split
  case isTrue =>
    -- the separators end at the space
    refine ⟨[' '], Text.trimRightOf_eq_self fun c hc => ?_, fun c hc => List.mem_singleton.mp hc⟩
    rw [List.getLast?_concat] at hc
    rw [← Option.some.inj hc]
    rfl
  case isFalse =>
    refine ⟨[], ?_, fun _ hc => by contradiction⟩
    rw [Text.intercalate_concat hfront, List.append_nil]

/-- **The words of a stripped comment**: the words outside the directives, without the separators at the
end of the last one. -/
theorem toList_strip (comment : String) :
    (strip comment).toList =
      List.intercalate [' '] (strippedWords (words (prose comment.toList))) := by
  obtain ⟨tail, htail, hspace⟩ := exists_trimRightOf_intercalate (words (prose comment.toList))
  rw [toList_strip_eq_trim, joined, htail]
  exact Text.trim_intercalate_append (isWord_of_mem_strippedWords Text.isWord_of_mem_words)
    fun c hc => hspace c hc ▸ Text.isBlank_space

/-- **The words of a stripped comment are those of its prose, without the separators at the end of the
last one.** -/
theorem words_strip (comment : String) :
    words (strip comment).toList = strippedWords (words (prose comment.toList)) := by
  rw [toList_strip]
  exact Text.words_intercalate (isWord_of_mem_strippedWords Text.isWord_of_mem_words)

/-- No directive ends with what is cut off. -/
theorem hasDirective_intercalate_strippedWords (ws : List (List Char)) :
    HasDirective (List.intercalate [' '] (strippedWords ws)) ↔
      HasDirective (List.intercalate [' '] ws) := by
  obtain ⟨tail, htail, hspace⟩ := exists_trimRightOf_intercalate ws
  obtain ⟨cut, hcut, hsep⟩ :=
    Text.exists_eq_trimRightOf_append isSeparator (List.intercalate [' '] ws)
  have hclose : ']' ∉ tail ++ cut := fun hmem =>
    (List.mem_append.mp hmem).elim (fun h => absurd (hspace _ h) (by decide))
      (fun h => absurd (hsep _ h) (by decide))
  have hsame := (sameDirectives_of_notMem List.not_mem_nil hclose).append
    (List.intercalate [' '] (strippedWords ws))
  rw [hcut, htail, List.append_assoc]
  rw [List.append_nil] at hsame
  exact hsame.has

/-- Stripping leaves a directive exactly if the prose has one. -/
theorem hasDirective_strip (comment : String) :
    HasDirective (strip comment).toList ↔ HasDirective (prose comment.toList) := by
  rw [toList_strip, hasDirective_intercalate_strippedWords, ← joined, hasDirective_joined]

/-! ## Separators at the end -/

/-- The empty text does not end with a separator. -/
theorem not_endsWithSeparator_nil : ¬EndsWithSeparator [] := by
  simp [EndsWithSeparator]

/-- Joined words end with a separator exactly if the last one does. -/
theorem endsWithSeparator_intercalate_concat {w : List Char} (hw : w ≠ [])
    (ws : List (List Char)) :
    EndsWithSeparator (List.intercalate [' '] (ws ++ [w])) ↔ EndsWithSeparator w := by
  rw [EndsWithSeparator, Text.getLast?_intercalate_concat hw, EndsWithSeparator]

/-- Once the separators at the end are dropped, no other one is there. -/
theorem not_endsWithSeparator_trimRightOf (s : List Char) :
    ¬EndsWithSeparator (trimRightOf isSeparator s) := by
  rintro ⟨c, hlast, hc⟩
  rw [Text.getLast?_trimRightOf hlast] at hc
  contradiction

/-- Separators are left at the end exactly if the last word is made of separators and the word in front
of it ends with one. -/
theorem endsWithSeparator_strippedWords_iff {ws : List (List Char)} (h : ∀ w ∈ ws, IsWord w) :
    EndsWithSeparator (List.intercalate [' '] (strippedWords ws)) ↔
      ∃ front v w, ws = front ++ [v, w] ∧ EndsWithSeparator v ∧ ∀ c ∈ w, isSeparator c = true := by
  rcases List.eq_nil_or_concat' ws with rfl | ⟨front, w, rfl⟩
  · exact iff_of_false not_endsWithSeparator_nil (by simp)
  rw [strippedWords_concat]
  split
  case isTrue hw =>
    -- the last word goes, and the one in front of it keeps its separators
    rw [Text.trimRightOf_eq_nil_iff] at hw
    rcases List.eq_nil_or_concat' front with rfl | ⟨front, v, rfl⟩
    · refine iff_of_false not_endsWithSeparator_nil ?_
      rintro ⟨front, v, w, hws, -⟩
      simpa using congrArg List.length hws
    · obtain ⟨hne, -⟩ := h v (by simp)
      rw [endsWithSeparator_intercalate_concat hne]
      constructor
      · exact fun hv => ⟨front, v, w, by simp, hv, hw⟩
      · rintro ⟨front', v', w', hws, hv, -⟩
        rw [List.append_cons front' v'] at hws
        obtain ⟨hfront, -⟩ := List.append_inj' hws rfl
        obtain ⟨-, hvv⟩ := List.append_inj' hfront rfl
        rwa [List.singleton_inj.mp hvv]
  case isFalse hw =>
    -- the last word stays, without its separators
    rw [endsWithSeparator_intercalate_concat hw]
    refine iff_of_false (not_endsWithSeparator_trimRightOf w) ?_
    rintro ⟨front', v', w', hws, -, hall⟩
    rw [List.append_cons front' v'] at hws
    obtain ⟨-, hww⟩ := List.append_inj' hws rfl
    rw [List.singleton_inj.mp hww] at hw
    exact hw (Text.trimRightOf_eq_nil_iff.mpr hall)

/-! ## Stripping again -/

/-- The final trim never makes a comment longer. -/
theorem length_strip_le (comment : String) :
    (strip comment).toList.length ≤
      (trimRightOf isSeparator (joined (prose comment.toList))).length := by
  rw [toList_strip_eq_trim]
  exact Text.length_trim_le _

/-- Single spaces stand between the words of a stripped comment. -/
theorem joined_strip (comment : String) :
    joined (strip comment).toList = (strip comment).toList := by
  rw [joined, words_strip, toList_strip]

/-- A stripped comment has no blanks at its ends. -/
theorem trim_strip (comment : String) : trim (strip comment).toList = (strip comment).toList := by
  rw [toList_strip]
  exact Text.trim_intercalate (isWord_of_mem_strippedWords Text.isWord_of_mem_words)

/-- **Stripping again changes nothing** exactly if no directive and no separator at the end is left. -/
theorem strip_strip_iff (comment : String) :
    strip (strip comment) = strip comment ↔
      ¬HasDirective (strip comment).toList ∧ ¬EndsWithSeparator (strip comment).toList := by
  constructor
  · intro h
    have hle := length_strip_le (strip comment)
    rw [h] at hle
    have hcut := List.rdropWhile_prefix isSeparator (joined (prose (strip comment).toList))
    have hdirective : ¬HasDirective (strip comment).toList := fun hdirective => by
      -- the length would drop with the directive
      have hlt := length_prose_lt hdirective
      have hjoined := Text.length_joined_le (prose (strip comment).toList)
      exact absurd (hle.trans (hcut.length_le.trans hjoined)) (Nat.not_le_of_lt hlt)
    refine ⟨hdirective, ?_⟩
    -- the length would drop with the separators
    rw [prose_eq_self hdirective, joined_strip] at hle hcut
    rw [← hcut.eq_of_length_le hle]
    exact not_endsWithSeparator_trimRightOf _
  · rintro ⟨hdirective, hend⟩
    rw [← String.toList_inj, toList_strip_eq_trim, prose_eq_self hdirective, joined_strip,
      Text.trimRightOf_eq_self fun c hc => ?_, trim_strip]
    exact Bool.eq_false_iff.mpr fun hsep => hend ⟨c, hc, hsep⟩

/-- **What a stripped comment looks like.** It has no blanks at its ends and single spaces between its
words, which are those outside the directives without the separators at the end of the last one. It
holds a directive exactly if one came together outside the ones that were removed, and none if the
brackets of the comment are not nested; it ends with a separator exactly if the last word outside the
directives is made of separators and the word in front of it ends with one. Where neither is left, and
only there, stripping it again changes nothing. -/
theorem strip_normal_form (comment : String) :
    let text := (strip comment).toList
    trim text = text ∧ List.intercalate [' '] (words text) = text ∧
      words text = strippedWords (words (prose comment.toList)) ∧
      (HasDirective text ↔ HasDirective (prose comment.toList)) ∧
      (Unnested comment.toList → ¬HasDirective text) ∧
      (EndsWithSeparator text ↔ ∃ front v w, words (prose comment.toList) = front ++ [v, w] ∧
        EndsWithSeparator v ∧ ∀ c ∈ w, isSeparator c = true) ∧
      (strip (strip comment) = strip comment ↔ ¬HasDirective text ∧ ¬EndsWithSeparator text) := by
  refine ⟨trim_strip comment, joined_strip comment, words_strip comment, hasDirective_strip comment,
    fun h => ?_, ?_, strip_strip_iff comment⟩
  · rw [hasDirective_strip]
    exact not_hasDirective_prose h
  · rw [toList_strip]
    exact endsWithSeparator_strippedWords_iff Text.isWord_of_mem_words

/-- A comment with one directive, in front of which a comma stands. -/
theorem strip_normal_form_affix :
    let comment := "0: off, 1: on, [@affix]"
    Unnested comment.toList ∧ ¬HasDirective (strip comment).toList ∧
      strip comment = "0: off, 1: on" := by
  intro comment
  have hunnested : Unnested comment.toList := by
    intro before body after h
    have hcount := congrArg (List.count '[') h
    have hone : List.count '[' comment.toList = 1 := by decide
    rw [hone] at hcount
    simp at hcount
    omega
  have htext : strip comment = "0: off, 1: on" := by decide +kernel
  obtain ⟨-, -, -, -, hnone, -⟩ := strip_normal_form comment
  exact ⟨hunnested, hnone hunnested, htext⟩

/-- Where directives are separated by commas, a comma stays behind, and goes when the text is stripped
again. -/
theorem separator_left_between_directives :
    let comment := "status, [@jsontag: st], [@affix]"
    strip comment = "status," ∧ EndsWithSeparator (strip comment).toList ∧
      strip (strip comment) ≠ strip comment := by
  intro comment
  have htext : strip comment = "status," := by decide +kernel
  refine ⟨htext, ?_, ?_⟩
  · rw [htext]
    exact ⟨',', by decide, by decide⟩
  · rw [htext]
    decide +kernel

/-- A directive stays that comes together around another one. -/
example : strip "[[@a]@b]" = "[@b]" := by
  decide +kernel

end Tablewright.Comment

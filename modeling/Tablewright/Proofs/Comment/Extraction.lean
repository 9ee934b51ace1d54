import Tablewright.Proofs.Comment.Strip
import Tablewright.Proofs.Unicode.Case

/-! # What directives say

A directive with a value is a keyword in any letter case, a colon and the value; `[@affix]` has nothing
but blanks behind its keyword. Of several directives with one keyword the last one gives the value,
without the blanks at its ends. As directives do not overlap, each of them is found wherever it stands,
and all that is found is cut out of the comment.

* `isValueDirective_iff`, `isAffixDirective_iff`: these directives, by what is read from their insides.
* `lastValue?_append`, `lastValue?_eq_none`: the value of the last directive, and none without one.
* `hasAffix_iff`: the comments that ask for the affix.
* `directives_extracted`: what is read from a comment, and that it is cut out. -/

namespace Tablewright.Comment

open Text (words trim)
open Unicode (fold isBlank sameFold)

/-- The word is the keyword, with its letters in any case (to which `ſ` is another `s`). -/
def Spells (keyword : String) (word : List Char) : Prop :=
  word.map fold = keyword.toList

instance (keyword : String) (word : List Char) : Decidable (Spells keyword word) :=
  inferInstanceAs (Decidable (_ = _))

/-- The text is a directive `[@keyword:value]`. -/
def IsValueDirective (keyword : String) (value span : List Char) : Prop :=
  ∃ word, Spells keyword word ∧ (∀ c ∈ value, isBodyChar c = true) ∧
    span = '[' :: '@' :: (word ++ ':' :: (value ++ [']']))

/-- The text is a directive `[@affix]`, perhaps with blanks behind its keyword. -/
def IsAffixDirective (span : List Char) : Prop :=
  ∃ word blanks, Spells "affix" word ∧ (∀ c ∈ blanks, isBlank c = true) ∧
    span = '[' :: '@' :: (word ++ (blanks ++ [']']))

/-- The directive with this inside, as it is written. -/
def written (body : List Char) : List Char :=
  '[' :: '@' :: (body ++ [']'])

/-- Keywords have no brackets, and folding leaves them as they are. -/
def IsKeyword (keyword : String) : Prop :=
  keyword.toList.map fold = keyword.toList ∧ ∀ c ∈ keyword.toList, isBodyChar c = true

instance (keyword : String) : Decidable (IsKeyword keyword) :=
  decidable_of_iff (_ ∧ keyword.toList.all isBodyChar = true)
    (and_congr_right fun _ => List.all_eq_true)

/-! ## Keywords -/

variable {keyword : String} {word body : List Char}

/-- The letters of a keyword are no brackets in any case. -/
theorem Spells.isBodyChar (hk : IsKeyword keyword) (h : Spells keyword word) :
    ∀ c ∈ word, isBodyChar c = true := by
  intro c hc
  have hmem : fold c ∈ keyword.toList := by
    rw [← h]
    exact List.mem_map_of_mem hc
  refine isBodyChar_iff.mpr ⟨?_, ?_⟩
  · rintro rfl
    exact absurd (hk.2 _ hmem) (by decide)
  · rintro rfl
    exact absurd (hk.2 _ hmem) (by decide)

/-- What stands behind a keyword. -/
theorem afterKeyword?_eq_some_iff {ks s rest : List Char} :
    afterKeyword? ks s = some rest ↔ ∃ word, s = word ++ rest ∧ word.map fold = ks.map fold := by
  induction ks generalizing s with
  | nil => simp [afterKeyword?]
  | cons k ks ih =>
      cases s with
      | nil => simp [afterKeyword?]
      | cons c s =>
          rw [afterKeyword?, sameFold]
          by_cases hfold : fold k = fold c
          · rw [if_pos (beq_iff_eq.mpr hfold), ih]
            constructor
            · rintro ⟨word, rfl, hword⟩
              exact ⟨c :: word, rfl, by rw [List.map_cons, List.map_cons, hfold, hword]⟩
            · rintro ⟨word, hs, hword⟩
              cases word with
              | nil => contradiction
              | cons d word =>
                  obtain ⟨-, rfl⟩ := List.cons.inj hs
                  exact ⟨word, rfl, (List.cons.inj hword).2⟩
          · -- a word in front of the rest would have to begin with the character that differs
            rw [if_neg (by simpa using hfold)]
            refine iff_of_false (by simp) ?_
            rintro ⟨word, hs, hword⟩
            cases word with
            | nil => contradiction
            | cons d word =>
                obtain ⟨rfl, -⟩ := List.cons.inj hs
                exact hfold (List.cons.inj hword).1.symm

/-- The value in the inside of a directive stands behind the keyword and a colon. -/
theorem valueOf?_eq_some_iff (hk : IsKeyword keyword) {v : List Char} :
    valueOf? keyword body = some v ↔
      ∃ word value, Spells keyword word ∧ body = word ++ ':' :: value ∧ trim value = v := by
  have hcolon : (keyword ++ ":").toList.map fold = keyword.toList ++ [':'] := by
    rw [String.toList_append, List.map_append, hk.1]
    rfl
  rw [valueOf?, Option.map_eq_some_iff]
  simp only [afterKeyword?_eq_some_iff, hcolon]
  constructor
  · rintro ⟨value, ⟨w, rfl, hw⟩, htrim⟩
    obtain ⟨word, end_, rfl, hword, hend⟩ := List.map_eq_append_iff.mp hw
    -- nothing but the colon passes for it
    obtain ⟨c, rfl, hc⟩ := List.map_eq_singleton_iff.mp hend
    obtain rfl := Unicode.fold_eq_colon_iff.mp hc
    exact ⟨word, value, hword, by rw [List.append_assoc, List.singleton_append], htrim⟩
  · rintro ⟨word, value, hword, rfl, htrim⟩
    refine ⟨value, ⟨word ++ [':'], by rw [List.append_assoc, List.singleton_append], ?_⟩, htrim⟩
    rw [List.map_append, hword]
    rfl

/-! ## Directives by their insides -/

/-- The directives with a value are those whose inside has one. -/
theorem isValueDirective_iff (hk : IsKeyword keyword) {value span : List Char} :
    IsValueDirective keyword value span ↔ ∃ body, (∀ c ∈ body, isBodyChar c = true) ∧
      span = written body ∧ ∃ word, Spells keyword word ∧ body = word ++ ':' :: value := by
  constructor
  · rintro ⟨word, hword, hvalue, rfl⟩
    refine ⟨word ++ ':' :: value, ?_, by simp [written], word, hword, rfl⟩
    exact List.forall_mem_append.mpr
      ⟨hword.isBodyChar hk, List.forall_mem_cons.mpr ⟨by decide, hvalue⟩⟩
  · rintro ⟨body, hbody, rfl, word, hword, rfl⟩
    obtain ⟨-, hrest⟩ := List.forall_mem_append.mp hbody
    exact ⟨word, hword, (List.forall_mem_cons.mp hrest).2, by simp [written]⟩

/-- `affix` has no brackets and is folded already. -/
theorem isKeyword_affix : IsKeyword "affix" := by decide +kernel

/-- The directives that ask for the affix have the keyword and blanks inside. -/
theorem isAffixDirective_iff {span : List Char} :
    IsAffixDirective span ↔ ∃ body, (∀ c ∈ body, isBodyChar c = true) ∧ span = written body ∧
      ∃ rest ∈ afterKeyword? "affix".toList body, ∀ c ∈ rest, isBlank c = true := by
  simp only [Option.mem_def, afterKeyword?_eq_some_iff, isKeyword_affix.1]
  constructor
  · rintro ⟨word, blanks, hword, hblanks, rfl⟩
    refine ⟨word ++ blanks, ?_, by simp [written], blanks, ⟨word, rfl, hword⟩, hblanks⟩
    exact List.forall_mem_append.mpr
      ⟨hword.isBodyChar isKeyword_affix, fun c hc => isBodyChar_of_isBlank (hblanks c hc)⟩
  · rintro ⟨body, hbody, rfl, blanks, ⟨word, rfl, hword⟩, hblanks⟩
    exact ⟨word, blanks, hword, hblanks, by simp [written]⟩

/-- The insides of directives are those that stand in the text as written. -/
theorem mem_directives_iff_within {s : List Char} :
    body ∈ directives s ↔ written body <:+: s ∧ ∀ c ∈ body, isBodyChar c = true := by
  rw [mem_directives_iff]
  constructor
  · rintro ⟨front, back, rfl, hbody⟩
    exact ⟨⟨front, back, by simp [written]⟩, hbody⟩
  · rintro ⟨⟨front, back, rfl⟩, hbody⟩
    exact ⟨front, back, by simp [written], hbody⟩

/-! ## The last value -/

/-- The last value among the insides of directives. -/
theorem lastValue?_eq (keyword comment : String) :
    lastValue? keyword comment =
      (((directives comment.toList).filterMap (valueOf? keyword)).getLast?).bind fun v =>
        if v = [] then none else some (String.ofList v) := by
  rw [lastValue?]
  cases ((directives comment.toList).filterMap (valueOf? keyword)).getLast? with
  | none => rfl
  | some v => cases v <;> rfl

/-- There is no value in a text without a directive that has one. -/
theorem filterMap_valueOf?_eq_nil (hk : IsKeyword keyword) {s : List Char}
    (h : ∀ value span, IsValueDirective keyword value span → ¬span <:+: s) :
    (directives s).filterMap (valueOf? keyword) = [] := by
  refine List.filterMap_eq_nil_iff.mpr fun body hbody => ?_
  obtain ⟨hwithin, hchars⟩ := mem_directives_iff_within.mp hbody
  cases hv : valueOf? keyword body with
  | none => rfl
  | some v =>
      obtain ⟨word, value, hword, hs, -⟩ := (valueOf?_eq_some_iff hk).mp hv
      have hdirective : IsValueDirective keyword value (written body) :=
        (isValueDirective_iff hk).mpr ⟨body, hchars, rfl, word, hword, hs⟩
      exact absurd hwithin (h value _ hdirective)

/-- **The last directive with a value gives it**, without the blanks at its ends. -/
theorem lastValue?_append (hk : IsKeyword keyword) {p q value span : List Char}
    (hspan : IsValueDirective keyword value span)
    (hlast : ∀ value' span', IsValueDirective keyword value' span' → ¬span' <:+: q) :
    lastValue? keyword (String.ofList (p ++ span ++ q)) =
      if trim value = [] then none else some (String.ofList (trim value)) := by
  obtain ⟨body, hbody, rfl, word, hword, hs⟩ := (isValueDirective_iff hk).mp hspan
  have hv : valueOf? keyword body = some (trim value) :=
    (valueOf?_eq_some_iff hk).mpr ⟨word, value, hword, hs, rfl⟩
  have hread : directives (p ++ written body ++ q) = directives p ++ body :: directives q := by
    rw [← directives_append_directive p hbody]
    simp [written]
  rw [lastValue?_eq, String.toList_ofList, hread, List.filterMap_append, List.filterMap_cons_some hv,
    filterMap_valueOf?_eq_nil hk hlast, List.getLast?_concat]
  rfl

/-- **Without a directive that has a value there is none.** -/
theorem lastValue?_eq_none (hk : IsKeyword keyword) {comment : String}
    (h : ∀ value span, IsValueDirective keyword value span → ¬span <:+: comment.toList) :
    lastValue? keyword comment = none := by
  rw [lastValue?_eq, filterMap_valueOf?_eq_nil hk h]
  rfl

/-! ## The affix -/

/-- A comment has the affix mark exactly if a directive is the keyword with blanks behind it. -/
theorem hasAffix_eq (comment : String) :
    hasAffix comment = (directives comment.toList).any fun body =>
      (afterKeyword? "affix".toList body).any fun rest => rest.all isBlank := by
  rw [hasAffix]
  congr 1
  funext body
  cases afterKeyword? "affix".toList body <;> rfl

/-- **A comment asks for the affix** if it holds a directive that does. -/
theorem hasAffix_iff (comment : String) :
    hasAffix comment = true ↔ ∃ span, IsAffixDirective span ∧ span <:+: comment.toList := by
  simp only [hasAffix_eq, List.any_eq_true, Option.any_eq_true, List.all_eq_true,
    mem_directives_iff_within, isAffixDirective_iff]
  constructor
  · rintro ⟨body, ⟨hwithin, hbody⟩, haffix⟩
    exact ⟨_, ⟨body, hbody, rfl, haffix⟩, hwithin⟩
  · rintro ⟨_, ⟨body, hbody, rfl, haffix⟩, hwithin⟩
    exact ⟨body, ⟨hwithin, hbody⟩, haffix⟩

/-! ## What is cut out -/

/-- What is read from a comment somewhere: a value for the `json` tag, a protobuf type, or the wish for
the affix. -/
def IsRecognised (span : List Char) : Prop :=
  (∃ value, IsValueDirective "jsontag" value span) ∨ (∃ value, IsValueDirective "pbtype" value span) ∨
    IsAffixDirective span

/-- `jsontag` has no brackets and is folded already. -/
theorem isKeyword_jsontag : IsKeyword "jsontag" := by decide +kernel

/-- `pbtype` has no brackets and is folded already. -/
theorem isKeyword_pbtype : IsKeyword "pbtype" := by decide +kernel

/-- What is read from a comment is a directive. -/
theorem IsRecognised.exists_written {span : List Char} (h : IsRecognised span) :
    ∃ body, (∀ c ∈ body, isBodyChar c = true) ∧ span = written body := by
  rcases h with ⟨value, hvalue⟩ | ⟨value, hvalue⟩ | haffix
  · obtain ⟨body, hbody, hspan, -⟩ := (isValueDirective_iff isKeyword_jsontag).mp hvalue
    exact ⟨body, hbody, hspan⟩
  · obtain ⟨body, hbody, hspan, -⟩ := (isValueDirective_iff isKeyword_pbtype).mp hvalue
    exact ⟨body, hbody, hspan⟩
  · obtain ⟨body, hbody, hspan, -⟩ := isAffixDirective_iff.mp haffix
    exact ⟨body, hbody, hspan⟩

/-- **What is read from a comment is cut out of it**: the stripped comment has the words of what is left
of the text in front and of the text behind. -/
theorem IsRecognised.toList_strip {span : List Char} (h : IsRecognised span) (p q : List Char) :
    (strip (String.ofList (p ++ span ++ q))).toList =
      List.intercalate [' '] (strippedWords (words (prose p ++ prose q))) := by
  obtain ⟨body, hbody, rfl⟩ := h.exists_written
  have hprose : prose (p ++ written body ++ q) = prose p ++ prose q := by
    rw [← prose_append_directive p hbody]
    simp [written]
  rw [Comment.toList_strip, String.toList_ofList, hprose]

/-- **What is read from a comment.** The value for the `json` tag, and the protobuf type, is what the
last directive with its keyword says, without the blanks at its ends, unless it says nothing; without
such a directive there is none. The affix is asked for exactly if a directive does so somewhere. And
every stretch from which any of this is read, the stripped comment is without. -/
theorem directives_extracted :
    (∀ reader ∈ [("jsontag", jsonTag?), ("pbtype", pbType?)],
      (∀ p value span q, IsValueDirective reader.1 value span →
        (∀ value' span', IsValueDirective reader.1 value' span' → ¬span' <:+: q) →
          reader.2 (String.ofList (p ++ span ++ q)) =
            if trim value = [] then none else some (String.ofList (trim value))) ∧
      ∀ comment : String,
        (∀ value span, IsValueDirective reader.1 value span → ¬span <:+: comment.toList) →
          reader.2 comment = none) ∧
    (∀ comment, hasAffix comment = true ↔
      ∃ span, IsAffixDirective span ∧ span <:+: comment.toList) ∧
    ∀ p span q, IsRecognised span →
      (strip (String.ofList (p ++ span ++ q))).toList =
        List.intercalate [' '] (strippedWords (words (prose p ++ prose q))) := by
  refine ⟨fun reader hreader => ?_, hasAffix_iff, fun p span q h => h.toList_strip p q⟩
  have hreads : IsKeyword reader.1 ∧ reader.2 = lastValue? reader.1 := by
    simp only [List.mem_cons, List.not_mem_nil, or_false] at hreader
    rcases hreader with rfl | rfl
    · exact ⟨isKeyword_jsontag, rfl⟩
    · exact ⟨isKeyword_pbtype, rfl⟩
  obtain ⟨hk, hlast⟩ := hreads
  rw [hlast]
  exact ⟨fun p value span q hspan hq => lastValue?_append hk hspan hq,
    fun comment h => lastValue?_eq_none hk h⟩

/-- A directive between an earlier one, a bracket that is left open, and a directive without its end. -/
theorem directives_extracted_between :
    let p := "[@jsontag: old] [@".toList
    let span := "[@JsonTag: id ]".toList
    let q := ", [@jsontag: new".toList
    IsValueDirective "jsontag" " id ".toList span ∧
      jsonTag? (String.ofList (p ++ span ++ q)) = some "id" ∧
      (strip (String.ofList (p ++ span ++ q))).toList =
        List.intercalate [' '] (strippedWords (words (prose p ++ prose q))) := by
  intro p span q
  have hspan : IsValueDirective "jsontag" " id ".toList span :=
    ⟨"JsonTag".toList, by decide +kernel, List.all_eq_true.mp (by decide), by decide⟩
  have hq : ∀ value' span', IsValueDirective "jsontag" value' span' → ¬span' <:+: q := by
    -- a directive has a closing bracket
    rintro value' span' ⟨word, -, -, rfl⟩ hwithin
    have hclose : ']' ∈ q := hwithin.subset (by simp)
    exact absurd hclose (by decide)
  obtain ⟨hreaders, -, hstrip⟩ := directives_extracted
  obtain ⟨hread, -⟩ := hreaders ("jsontag", jsonTag?) List.mem_cons_self
  refine ⟨hspan, (hread p _ span q hspan hq).trans ?_, hstrip p span q (Or.inl ⟨_, hspan⟩)⟩
  decide +kernel

end Tablewright.Comment

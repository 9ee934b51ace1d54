import Mathlib.Algebra.Ring.Parity
import Tablewright.Proofs.Table.TagSegments

/-! # Where a gorm tag ends

A tag is written between backticks, on one line, and what it says of the column stands between double
quotes, where a backslash takes the character behind it along. No comment can break the first two. The
third one a comment can: its double quotes get a backslash each, but its backslashes stay as they are,
so one of them can take a closing quote along, or the backslash that was put in front of a quote.

* `isInside_flatMap_commentChar_iff`: when a comment is safe between quotes.
* `tag_closed_iff`: a tag ends at its final quote exactly if every double quote of the comment, and its
  end, stands behind an even number of backslashes. -/

namespace Tablewright

namespace Text

/-- May a text stand between two quotes: no quote in it is bare, and no backslash at its end would take
the closing quote along? The flag says whether a backslash in front of the text takes its first
character along. -/
def isInside (q : Char) : Bool → List Char → Bool
  | taken, [] => !taken
  | taken, c :: cs => (taken || c != q) && isInside q (c == '\\' && !taken) cs

/-- The number of backslashes at the end of a text. -/
def backslashesAtEnd (s : List Char) : Nat :=
  (s.reverse.takeWhile (· == '\\')).length

@[simp] theorem backslashesAtEnd_nil : backslashesAtEnd [] = 0 := rfl

/-- One more backslash at the end is counted, and any other character starts the count again. -/
theorem backslashesAtEnd_concat (s : List Char) (c : Char) :
    backslashesAtEnd (s ++ [c]) = if c = '\\' then backslashesAtEnd s + 1 else 0 := by
  rw [backslashesAtEnd, List.reverse_concat, List.takeWhile_cons]
  by_cases h : c = '\\'
  · rw [if_pos h, if_pos (beq_iff_eq.mpr h)]
    rfl
  · rw [if_neg h, if_neg (mt beq_iff_eq.mp h)]
    rfl

/-- A text without quotes and backslashes takes nothing along. -/
theorem isInside_append_of_notMem {q : Char} {s : List Char} (hq : q ∉ s) (hslash : '\\' ∉ s)
    (t : List Char) : isInside q false (s ++ t) = isInside q false t := by
  induction s with
  | nil => rfl
  | cons c s ih =>
      obtain ⟨hcq, hq⟩ := List.ne_and_not_mem_of_not_mem_cons hq
      obtain ⟨hcslash, hslash⟩ := List.ne_and_not_mem_of_not_mem_cons hslash
      rw [List.cons_append, isInside, bne_iff_ne.mpr hcq.symm, beq_eq_false_iff_ne.mpr hcslash.symm]
      exact ih hq hslash

/-- Line breaks that become spaces end nothing and take nothing along. -/
theorem isInside_flattenBreaks {q : Char} (hspace : q ≠ ' ') (hreturn : q ≠ '\r') (hfeed : q ≠ '\n')
    (taken : Bool) (s : List Char) : isInside q taken (flattenBreaks s) = isInside q taken s := by
  fun_induction flattenBreaks s generalizing taken with
  | case1 => rfl
  | case2 cs ih =>
      rw [isInside, isInside, isInside, bne_iff_ne.mpr hspace.symm, bne_iff_ne.mpr hreturn.symm,
        bne_iff_ne.mpr hfeed.symm, Bool.or_true, Bool.or_true, Bool.true_and, Bool.true_and]
      exact ih false
  | case3 c cs _ ih =>
      rw [isInside, isInside, ih]
      by_cases hc : c = '\n'
      · subst hc
        rw [if_pos (BEq.refl _), bne_iff_ne.mpr hspace.symm, bne_iff_ne.mpr hfeed.symm]
        rfl
      · rw [if_neg (mt beq_iff_eq.mp hc)]

end Text

namespace GormTag

open Text (isInside backslashesAtEnd)

variable {t : Table} {c : Column}

/-! ## Comments between quotes -/

/-- A character other than a double quote becomes one that is a double quote or a backslash only if it
is one itself. -/
theorem exists_commentChar_eq_singleton {d : Char} (hd : d ≠ '"') :
    ∃ e, commentChar d = [e] ∧ e ≠ '"' ∧ (e == '\\') = (d == '\\') := by
  rw [commentChar]
  split
  case isTrue h => exact ⟨',', rfl, by decide, by rw [h]; rfl⟩
  split
  case isTrue h => exact ⟨'\'', rfl, by decide, by rw [h]; rfl⟩
  exact ⟨d, rfl, hd, rfl⟩

/-- One character further, a backslash is taken along or takes along by the number of backslashes. -/
theorem odd_backslashesAtEnd_concat (s : List Char) (d : Char) :
    decide (Odd (backslashesAtEnd (s ++ [d]))) =
      (d == '\\' && !decide (Odd (backslashesAtEnd s))) := by
  rw [Text.backslashesAtEnd_concat]
  by_cases hd : d = '\\'
  · rw [if_pos hd, beq_iff_eq.mpr hd, Bool.true_and, ← decide_not, decide_eq_decide]
    exact Nat.odd_add_one
  · rw [if_neg hd, beq_eq_false_iff_ne.mpr hd]
    rfl

/-- In a text that stands behind `front`, every double quote and the end are behind an even number of
backslashes. -/
def EvenAtQuotes (front s : List Char) : Prop :=
  ∀ before behind, s = before ++ behind → behind = [] ∨ behind.head? = some '"' →
    Even (backslashesAtEnd (front ++ before))

/-- Where nothing follows, only the backslashes in front of the closing quote count. -/
theorem evenAtQuotes_nil {front : List Char} :
    EvenAtQuotes front [] ↔ Even (backslashesAtEnd front) := by
  constructor
  · intro h
    simpa using h [] [] rfl (Or.inl rfl)
  · intro h before behind hsplit _
    obtain ⟨rfl, -⟩ := List.append_eq_nil_iff.mp hsplit.symm
    simpa using h

/-- Quotes stand behind even runs of backslashes exactly if the first character does and those behind it
do. -/
theorem evenAtQuotes_cons {front s : List Char} {d : Char} :
    EvenAtQuotes front (d :: s) ↔
      (d = '"' → Even (backslashesAtEnd front)) ∧ EvenAtQuotes (front ++ [d]) s := by
  constructor
  · intro h
    refine ⟨fun hd => ?_, fun before behind hsplit hend => ?_⟩
    · simpa using h [] (d :: s) rfl (Or.inr (congrArg some hd))
    · rw [List.append_assoc]
      exact h (d :: before) behind (congrArg _ hsplit) hend
  · rintro ⟨hhead, htail⟩ before behind hsplit hend
    rcases List.cons_eq_append_iff.mp hsplit with ⟨rfl, rfl⟩ | ⟨before, rfl, hrest⟩
    · -- the text itself stands behind the split
      have hd : d = '"' := by simpa using hend
      simpa using hhead hd
    · rw [List.append_cons]
      exact htail before behind hrest hend

instance decidableEvenAtQuotes (front : List Char) :
    (s : List Char) → Decidable (EvenAtQuotes front s)
  | [] => decidable_of_iff _ evenAtQuotes_nil.symm
  | d :: s =>
    have := decidableEvenAtQuotes (front ++ [d]) s
    decidable_of_iff _ evenAtQuotes_cons.symm

/-- What is not odd is even. -/
theorem not_decide_odd_iff {n : Nat} : (!decide (Odd n)) = true ↔ Even n := by
  rw [← decide_not, decide_eq_true_iff, Nat.not_odd_iff_even]

/-- **A comment is safe between quotes** exactly if each of its double quotes, and its end, is behind an
even number of backslashes. -/
theorem isInside_flatMap_commentChar_iff (front s : List Char) :
    isInside '"' (decide (Odd (backslashesAtEnd front))) (s.flatMap commentChar) = true ↔
      EvenAtQuotes front s := by
  -- `front` is what has been read; the flag is the parity of the backslashes at its end
  induction s generalizing front with
  | nil =>
      rw [evenAtQuotes_nil, List.flatMap_nil]
      exact not_decide_odd_iff
  | cons d s ih =>
      rw [evenAtQuotes_cons, ← ih (front ++ [d]), odd_backslashesAtEnd_concat, List.flatMap_cons]
      by_cases hd : d = '"'
      · -- a backslash and the quote: the backslash must not be taken along itself
        subst hd
        have htwo : isInside '"' (decide (Odd (backslashesAtEnd front)))
            (commentChar '"' ++ s.flatMap commentChar) =
              (!decide (Odd (backslashesAtEnd front)) &&
                isInside '"' false (s.flatMap commentChar)) := by
          cases decide (Odd (backslashesAtEnd front)) <;> rfl
        rw [htwo, Bool.and_eq_true, not_decide_odd_iff]
        exact and_congr_left fun _ => ⟨fun h _ => h, fun h => h rfl⟩
      · obtain ⟨e, he, hquote, hslash⟩ := exists_commentChar_eq_singleton hd
        rw [he, List.singleton_append, isInside, bne_iff_ne.mpr hquote, hslash, Bool.or_true,
          Bool.true_and]
        exact (and_iff_right fun h => absurd h hd).symm

/-! ## The end of a tag -/

/-- The text between the quotes of a tag. -/
def body (t : Table) (c : Column) (withComment : Bool) : String :=
  String.intercalate ";" (segments t c withComment)

/-- A tag has segments. -/
theorem segments_ne_nil (t : Table) (c : Column) (withComment : Bool) :
    segments t c withComment ≠ [] := by
  simp [segments]

/-- An empty comment adds nothing to a tag. -/
theorem body_of_comment_eq_empty (t : Table) (h : c.comment = "") :
    body t c true = body t c false := by
  simp [body, segments, h]

/-- The comment stands at the end. -/
theorem body_of_comment_ne_empty (t : Table) (h : c.comment ≠ "") :
    body t c true = body t c false ++ ";comment:" ++ commentText c.comment := by
  have hsegments : segments t c true =
      segments t c false ++ ["comment:" ++ commentText c.comment] := by
    simp [segments, h]
  rw [body, hsegments, String.intercalate_append_of_ne_nil (segments_ne_nil t c false) (by simp),
    String.intercalate_singleton, body, ← String.toList_inj]
  simp

/-- A character in no line and not in the separator is not in the joined lines. -/
theorem notMem_intercalate {x : Char} {sep : String} {ls : List String} (hsep : x ∉ sep.toList)
    (hls : ∀ l ∈ ls, x ∉ l.toList) : x ∉ (String.intercalate sep ls).toList := by
  match ls with
  | [] => exact List.not_mem_nil
  | [l] =>
      rw [String.intercalate_singleton]
      exact hls l List.mem_cons_self
  | l :: m :: ls =>
      obtain ⟨hl, hrest⟩ := List.forall_mem_cons.mp hls
      rw [String.intercalate_cons_cons]
      exact notMem_append (notMem_append hl hsep) (notMem_intercalate hsep hrest)

/-- A delimiter that is not in the texts of a column is not in its tag, the cut between segments apart. -/
theorem notMem_body {x : Char} (hx : x ∈ delimiters) (hcut : x ≠ ';') (h : Free x t c)
    {withComment : Bool} (hcomment : withComment = true → x ∉ (commentText c.comment).toList) :
    x ∉ (body t c withComment).toList :=
  notMem_intercalate (by simpa using hcut) (notMem_segments hx h hcomment)

/-- A tag is on one line, whatever the comment holds. -/
theorem newline_notMem_tag (h : Free '\n' t c) (withComment : Bool) :
    '\n' ∉ (tag t c withComment).toList := by
  have hbody : '\n' ∉ (body t c withComment).toList :=
    notMem_body (by decide) (by decide) h fun _ => notMem_commentText (Or.inr (Or.inr rfl)) c.comment
  exact notMem_append (notMem_append (by decide) hbody) (by decide)

/-- The text between the quotes of a tag is safe there exactly if the comment is. -/
theorem isInside_body_iff (hquote : Free '"' t c) (hslash : Free '\\' t c) :
    isInside '"' false (body t c true).toList = true ↔
      EvenAtQuotes [] (Text.trim c.comment.toList) := by
  -- what stands in front of the comment has neither quotes nor backslashes
  have hq : '"' ∉ (body t c false).toList := notMem_body (by decide) (by decide) hquote (by simp)
  have hs : '\\' ∉ (body t c false).toList := notMem_body (by decide) (by decide) hslash (by simp)
  by_cases hempty : c.comment = ""
  · rw [body_of_comment_eq_empty t hempty, hempty, ← List.append_nil (body t c false).toList,
      Text.isInside_append_of_notMem hq hs]
    exact iff_of_true rfl (evenAtQuotes_nil.mpr Even.zero)
  · have hfront : '"' ∉ (body t c false ++ ";comment:").toList :=
      notMem_append hq (by decide)
    have hfront' : '\\' ∉ (body t c false ++ ";comment:").toList :=
      notMem_append hs (by decide)
    rw [body_of_comment_ne_empty t hempty, String.toList_append,
      Text.isInside_append_of_notMem hfront hfront', toList_commentText,
      Text.isInside_flattenBreaks (by decide) (by decide) (by decide)]
    exact isInside_flatMap_commentChar_iff [] _

/-- **Where a tag ends.** A tag opens with `gorm:"` and closes with a double quote. It is free of
backticks and line feeds, whatever the comment holds. No double quote between the two is bare, and the
closing quote is not taken along, exactly if every double quote of the comment without the blanks
around it, and its end, is behind an even number of backslashes. -/
theorem tag_closed_iff (h : ∀ x ∈ ['"', '\\', '\x60', '\n'], Free x t c) :
    ∃ body : String, tag t c true = "gorm:\"" ++ body ++ "\"" ∧
      (isInside '"' false body.toList = true ↔ EvenAtQuotes [] (Text.trim c.comment.toList)) ∧
      '\x60' ∉ (tag t c true).toList ∧ '\n' ∉ (tag t c true).toList := by
  have hbacktick : '\x60' ∉ (body t c true).toList :=
    notMem_body (by decide) (by decide) (h _ (by decide)) fun _ =>
      notMem_commentText (Or.inr (Or.inl rfl)) c.comment
  have hfeed : '\n' ∉ (body t c true).toList :=
    notMem_body (by decide) (by decide) (h _ (by decide)) fun _ =>
      notMem_commentText (Or.inr (Or.inr rfl)) c.comment
  refine ⟨body t c true, rfl, isInside_body_iff (h _ (by decide)) (h _ (by decide)), ?_, ?_⟩
  · exact notMem_append (notMem_append (by decide) hbacktick) (by decide)
  · exact notMem_append (notMem_append (by decide) hfeed) (by decide)

/-- A column without a default, in a table without indexes. -/
theorem forall_free {xs : List Char}
    (hnames : xs.all fun x => x ∉ c.name.toList ∧ x ∉ c.rawType.toList)
    (hdefault : c.default? = none) (hindexes : t.indexes = []) : ∀ x ∈ xs, Free x t c := by
  intro x hx
  obtain ⟨hname, htype⟩ := List.all_iff_forall_prop.mp hnames x hx
  refine ⟨hname, htype, fun d hd => ?_, fun i hi => ?_⟩
  · rw [hdefault] at hd
    contradiction
  · rw [hindexes] at hi
    contradiction

/-- A comment with a quote that has two backslashes in front of it, a quote without any, a backtick and
a line feed. -/
theorem tag_closed_iff_quotes :
    let c : Column :=
      { (default : Column) with name := "a", rawType := "int", comment := "x\\\\\" `y`\n\"z" }
    let t : Table := { (default : Table) with name := "t", columns := [c] }
    (∀ x ∈ ['"', '\\', '\x60', '\n'], Free x t c) ∧
      EvenAtQuotes [] (Text.trim c.comment.toList) ∧
      ∃ body : String, tag t c true = "gorm:\"" ++ body ++ "\"" ∧
        isInside '"' false body.toList = true := by
  intro c t
  have hfree : ∀ x ∈ ['"', '\\', '\x60', '\n'], Free x t c := forall_free (by decide) rfl rfl
  have heven : EvenAtQuotes [] (Text.trim c.comment.toList) := by decide +kernel
  obtain ⟨body, hbody, hinside, -⟩ := tag_closed_iff hfree
  exact ⟨hfree, heven, body, hbody, hinside.mpr heven⟩

/-- The backslash at the end of a comment takes the closing quote of the tag along. -/
theorem tag_of_backslash_not_closed :
    let c : Column := { (default : Column) with name := "a", rawType := "int", comment := "x\\" }
    let t : Table := { (default : Table) with name := "t", columns := [c] }
    (∀ x ∈ ['"', '\\', '\x60', '\n'], Free x t c) ∧
      tag t c true = "gorm:\"column:a;type:int;not null;comment:x\\\"" ∧
      ∀ body : String, tag t c true = "gorm:\"" ++ body ++ "\"" →
        isInside '"' false body.toList = false := by
  intro c t
  have htag : tag t c true =
      "gorm:\"" ++ "column:a;type:int;not null;comment:x\\" ++ "\"" := by
    decide +kernel
  refine ⟨forall_free (by decide) rfl rfl, htag, fun body hbody => ?_⟩
  have hinside : "column:a;type:int;not null;comment:x\\" = body :=
    (String.append_right_inj _).mp ((String.append_left_inj _).mp (htag.symm.trans hbody))
  rw [← hinside]
  decide

end GormTag

end Tablewright

import Mathlib.Data.List.DropRight
import Tablewright.Proofs.Text.Lines

/-! # Texts made of words

The words of a text are its non-empty stretches between blanks. `joined` puts them together again with
single spaces between them, which leaves the words as they are (`words_intercalate`) and takes nothing
but blanks away. What holds of a text is shown by `wordInduction`: a text is a stretch without blanks,
or has such a stretch in front of a blank and another text.

* `words_intercalate`: words that are joined by spaces are read back.
* `joined_append_blank`: joining, one stretch at a time.
* `trim_intercalate`: joined words have no blanks at their ends.
* `trim_blanks_append`, `trim_append_blanks`, `trim_trim_append_cons`: what trimming leaves of a text
  with blanks around it, and of a trimmed text with more behind it. -/

namespace Tablewright.Text

open Unicode (isBlank)

/-- A text without blanks. -/
def BlankFree (s : List Char) : Prop :=
  ∀ c ∈ s, isBlank c = false

/-- A text without blanks that is not empty. -/
def IsWord (w : List Char) : Prop :=
  w ≠ [] ∧ BlankFree w

/-- A joined text is free of blanks exactly when both parts are. -/
theorem blankFree_append {s t : List Char} : BlankFree (s ++ t) ↔ BlankFree s ∧ BlankFree t :=
  List.forall_mem_append

/-- The space is a blank. -/
theorem isBlank_space : isBlank ' ' = true := by
  decide +kernel

/-- A text is a stretch without blanks, or has one in front of a blank and a text. -/
theorem wordInduction {motive : List Char → Prop} (stretch : ∀ a, BlankFree a → motive a)
    (blank : ∀ a b s, BlankFree a → isBlank b = true → motive s → motive (a ++ b :: s))
    (s : List Char) : motive s := by
  -- the stretch that has been read is put in front of the text
  suffices h : ∀ a, BlankFree a → motive (a ++ s) from h [] (fun _ hc => by contradiction)
  induction s with
  | nil =>
      intro a ha
      rw [List.append_nil]
      exact stretch a ha
  | cons c s ih =>
      intro a ha
      cases hc : isBlank c with
      | true => exact blank a c s ha hc (ih [] fun _ hd => by contradiction)
      | false =>
          rw [List.append_cons]
          exact ih (a ++ [c]) (blankFree_append.mpr ⟨ha, by simpa [BlankFree] using hc⟩)

/-! ## Words -/

/-- A blank ends a word: the words on its two sides are found apart. -/
theorem words_append_blank (s t : List Char) {b : Char} (hb : isBlank b = true) :
    words (s ++ b :: t) = words s ++ words t := by
  simp only [words, pieces_eq_splitOnP, List.splitOnP_append_cons s t hb, List.filter_append]

/-- A text without blanks is one word, or none when it is empty. -/
theorem words_of_blankFree {s : List Char} (h : BlankFree s) :
    words s = if s = [] then [] else [s] := by
  rw [words, pieces_eq_splitOnP, List.splitOnP_eq_singleton h]
  cases s with
  | nil => rfl
  | cons c s => rfl

/-- A word has itself as its only word. -/
theorem words_of_isWord {w : List Char} (h : IsWord w) : words w = [w] := by
  rw [words_of_blankFree h.2, if_neg h.1]

/-- The words of a text are nonempty and free of blanks. -/
theorem isWord_of_mem_words {s : List Char} : ∀ w ∈ words s, IsWord w := by
  induction s using wordInduction with
  | stretch a ha =>
      rw [words_of_blankFree ha]
      split
      · exact fun w hw => absurd hw List.not_mem_nil
      · rename_i hne
        exact fun w hw => List.mem_singleton.mp hw ▸ ⟨hne, ha⟩
  | blank a b s ha hb ih =>
      rw [words_append_blank a s hb, words_of_blankFree ha]
      refine List.forall_mem_append.mpr ⟨?_, ih⟩
      split
      · exact fun w hw => absurd hw List.not_mem_nil
      · rename_i hne
        exact fun w hw => List.mem_singleton.mp hw ▸ ⟨hne, ha⟩

/-- A text without words is made of blanks. -/
theorem isBlank_of_words_eq_nil {s : List Char} (h : words s = []) : ∀ c ∈ s, isBlank c = true := by
  induction s using wordInduction with
  | stretch a ha =>
      rw [words_of_blankFree ha] at h
      split at h
      · rename_i hnil
        exact fun c hc => by rw [hnil] at hc; contradiction
      · contradiction
  | blank a b s ha hb ih =>
      rw [words_append_blank a s hb, words_of_blankFree ha] at h
      split at h
      · rename_i hnil
        rw [hnil]
        exact List.forall_mem_cons.mpr ⟨hb, ih h⟩
      · contradiction

/-- **Words that are joined by spaces are read back.** -/
theorem words_intercalate {ws : List (List Char)} (h : ∀ w ∈ ws, IsWord w) :
    words (List.intercalate [' '] ws) = ws := by
  match ws with
  | [] => rfl
  | [w] => rw [List.intercalate_singleton, words_of_isWord (h w List.mem_cons_self)]
  | w :: v :: ws =>
      obtain ⟨hw, hrest⟩ := List.forall_mem_cons.mp h
      rw [List.intercalate_cons_cons, List.append_assoc, List.singleton_append,
        words_append_blank _ _ isBlank_space, words_of_isWord hw, words_intercalate hrest]
      rfl

/-- The words of a text with single spaces between them. -/
def joined (s : List Char) : List Char :=
  List.intercalate [' '] (words s)

/-- Collapsing the blanks of a text without blanks leaves it. -/
theorem joined_of_blankFree {s : List Char} (h : BlankFree s) : joined s = s := by
  rw [joined, words_of_blankFree h]
  split
  · rename_i hnil
    rw [hnil, List.intercalate_nil]
  · rw [List.intercalate_singleton]

/-- A blank in front is dropped by collapsing. -/
theorem joined_blank (s : List Char) {b : Char} (hb : isBlank b = true) :
    joined (b :: s) = joined s := by
  have h := words_append_blank [] s hb
  rw [List.nil_append] at h
  rw [joined, h]
  rfl

/-- Behind a word stands nothing, or a space and the other words. -/
theorem joined_append_blank {a : List Char} (ha : IsWord a) (s : List Char) {b : Char}
    (hb : isBlank b = true) :
    joined (a ++ b :: s) = a ++ if words s = [] then [] else ' ' :: joined s := by
  rw [joined, words_append_blank a s hb, words_of_isWord ha, List.singleton_append]
  split
  · rename_i hnil
    rw [hnil, List.intercalate_singleton, List.append_nil]
  · rename_i hne
    rw [List.intercalate_cons_of_ne_nil hne, List.append_assoc]
    rfl

/-- Collapsing blanks never makes a text longer. -/
theorem length_joined_le (s : List Char) : (joined s).length ≤ s.length := by
  induction s using wordInduction with
  | stretch a ha => rw [joined_of_blankFree ha]
  | blank a b s ha hb ih =>
      by_cases hnil : a = []
      · rw [hnil, List.nil_append, joined_blank s hb, List.length_cons]
        omega
      · rw [joined_append_blank ⟨hnil, ha⟩ s hb, List.length_append, List.length_append,
          List.length_cons]
        split
        · rw [List.length_nil]
          omega
        · rw [List.length_cons]
          omega

/-! ## The ends of texts -/

/-- Trimming the end of a joined text reaches its first part only when the second is trimmed away. -/
theorem trimRightOf_append (p : Char → Bool) (s t : List Char) :
    trimRightOf p (s ++ t) =
      if trimRightOf p t = [] then trimRightOf p s else s ++ trimRightOf p t := by
  simp only [trimRightOf, List.reverse_append, List.dropWhile_append, List.reverse_eq_nil_iff,
    List.isEmpty_iff]
  split
  · rfl
  · rw [List.reverse_append, List.reverse_reverse]

/-- Trimming never makes a text longer. -/
theorem length_trim_le (s : List Char) : (trim s).length ≤ s.length :=
  (List.rdropWhile_prefix isBlank _).length_le.trans (List.dropWhile_suffix isBlank).length_le

/-- What is cut off at the right end is of the class. -/
theorem exists_eq_trimRightOf_append (p : Char → Bool) (s : List Char) :
    ∃ t, s = trimRightOf p s ++ t ∧ ∀ c ∈ t, p c = true := by
  refine ⟨(s.reverse.takeWhile p).reverse, ?_, fun c hc => ?_⟩
  · rw [trimRightOf, ← List.reverse_append, List.takeWhile_append_dropWhile, List.reverse_reverse]
  · exact List.mem_takeWhile_imp (List.mem_reverse.mp hc)

/-- What is left does not end with a character of the class. -/
theorem getLast?_trimRightOf {p : Char → Bool} {s : List Char} {c : Char}
    (h : (trimRightOf p s).getLast? = some c) : p c = false := by
  have hhead := List.head?_dropWhile_not p s.reverse
  rw [trimRightOf, List.getLast?_reverse] at h
  rw [h] at hhead
  exact hhead

/-- A text is trimmed away exactly when each of its characters is. -/
theorem trimRightOf_eq_nil_iff {p : Char → Bool} {s : List Char} :
    trimRightOf p s = [] ↔ ∀ c ∈ s, p c = true :=
  List.rdropWhile_eq_nil_iff

/-- A text that does not end with a character of the class stays. -/
theorem trimRightOf_eq_self {p : Char → Bool} {s : List Char}
    (h : ∀ c, s.getLast? = some c → p c = false) : trimRightOf p s = s := by
  refine List.rdropWhile_eq_self_iff.mpr fun hne => ?_
  rw [h _ (List.getLast?_eq_some_getLast hne)]
  exact Bool.false_ne_true

/-- Blanks in front are cut off. -/
theorem trim_blanks_append {a : List Char} (ha : ∀ c ∈ a, isBlank c = true) (s : List Char) :
    trim (a ++ s) = trim s := by
  rw [trim, trimOf, List.dropWhile_append_of_pos ha]
  rfl

/-- Blanks at the end are cut off. -/
theorem trim_append_blanks (s : List Char) {b : List Char} (hb : ∀ c ∈ b, isBlank c = true) :
    trim (s ++ b) = trim s := by
  have hcut : trimRightOf isBlank b = [] := trimRightOf_eq_nil_iff.mpr hb
  rw [trim, trimOf, List.dropWhile_append]
  split
  · -- nothing but blanks
    rename_i hnil
    rw [List.dropWhile_eq_nil_iff.mpr hb, trim, trimOf, List.isEmpty_iff.mp hnil]
  · rw [trimRightOf_append, if_pos hcut]
    rfl

/-- A text without blanks at its ends stays. -/
theorem trim_eq_self {s : List Char} (hhead : ∀ c, s.head? = some c → isBlank c = false)
    (hlast : ∀ c, s.getLast? = some c → isBlank c = false) : trim s = s := by
  have hfront : s.dropWhile isBlank = s := by
    cases s with
    | nil => rfl
    | cons c s => rw [List.dropWhile_cons_of_neg (by rw [hhead c rfl]; exact Bool.false_ne_true)]
  rw [trim, trimOf, hfront, trimRightOf_eq_self hlast]

/-- A trimmed text does not start with a blank. -/
theorem isBlank_of_head?_trim {s : List Char} {c : Char} (h : (trim s).head? = some c) :
    isBlank c = false := by
  have hhead := List.head?_dropWhile_not isBlank s
  obtain ⟨rest, hrest⟩ := List.head?_eq_some_iff.mp h
  obtain ⟨t, ht, -⟩ := exists_eq_trimRightOf_append isBlank (s.dropWhile isBlank)
  have hcut : trimRightOf isBlank (s.dropWhile isBlank) = c :: rest := hrest
  rw [ht, hcut] at hhead
  exact hhead

/-- Behind a trimmed text, a blank and more are cut off if they are all blanks, and else up to the last
character that is none. -/
theorem trim_trim_append_cons {s : List Char} (hs : trim s ≠ []) {b : Char} (hb : isBlank b = true)
    (t : List Char) :
    trim (trim s ++ b :: t) =
      if trimRightOf isBlank t = [] then trim s else trim s ++ b :: trimRightOf isBlank t := by
  have hbt : trimRightOf isBlank (b :: t) =
      if trimRightOf isBlank t = [] then [] else b :: trimRightOf isBlank t := by
    have hblank : trimRightOf isBlank [b] = [] := trimRightOf_eq_nil_iff.mpr (by simpa using hb)
    rw [← List.singleton_append, trimRightOf_append, hblank]
    rfl
  obtain ⟨c, rest, hc⟩ := List.exists_cons_of_ne_nil hs
  -- a trimmed text starts with no blank, so only the end can be trimmed
  have hhead : ¬isBlank c = true := by
    rw [isBlank_of_head?_trim (hc ▸ List.head?_cons)]
    exact Bool.false_ne_true
  have hfront : (trim s ++ b :: t).dropWhile isBlank = trim s ++ b :: t := by
    rw [hc, List.cons_append, List.dropWhile_cons_of_neg hhead]
  have hself : trimRightOf isBlank (trim s) = trim s :=
    trimRightOf_eq_self fun _ hc => getLast?_trimRightOf hc
  rw [trim, trimOf, hfront, trimRightOf_append, hbt]
  split <;> simp [hself]

/-- Joining with one more word at the end appends a separator and the word. -/
theorem intercalate_concat {ws : List (List Char)} (h : ws ≠ []) (sep w : List Char) :
    List.intercalate sep (ws ++ [w]) = List.intercalate sep ws ++ sep ++ w := by
  match ws, h with
  | [v], _ =>
      rw [List.singleton_append, List.intercalate_cons_cons, List.intercalate_singleton,
        List.intercalate_singleton]
  | v :: u :: ws, _ =>
      have hrest := intercalate_concat (List.cons_ne_nil u ws) sep w
      rw [List.cons_append] at hrest
      rw [List.cons_append, List.cons_append, List.intercalate_cons_cons, hrest,
        List.intercalate_cons_cons]
      simp only [List.append_assoc]

/-- Joined words start with the first word. -/
theorem exists_intercalate_eq_append (sep w : List Char) (ws : List (List Char)) :
    ∃ rest, List.intercalate sep (w :: ws) = w ++ rest := by
  cases ws with
  | nil => exact ⟨[], by rw [List.intercalate_singleton, List.append_nil]⟩
  | cons v ws => exact ⟨_, by rw [List.intercalate_cons_cons, List.append_assoc]⟩

/-- Joined words end with the last word. -/
theorem getLast?_intercalate_concat {w : List Char} (hw : w ≠ []) (sep : List Char)
    (ws : List (List Char)) : (List.intercalate sep (ws ++ [w])).getLast? = w.getLast? := by
  have hsome : ∀ s : List Char, (s ++ w).getLast? = w.getLast? := fun s => by
    rw [List.getLast?_append, Option.or_of_isSome (List.getLast?_isSome.mpr hw)]
  by_cases hnil : ws = []
  · rw [hnil, List.nil_append, List.intercalate_singleton]
  · rw [intercalate_concat hnil, hsome]

/-- Joined words neither start nor end with a blank. -/
theorem isBlank_ends_intercalate {ws : List (List Char)} (h : ∀ w ∈ ws, IsWord w) {c : Char}
    (hc : (List.intercalate [' '] ws).head? = some c ∨
      (List.intercalate [' '] ws).getLast? = some c) : isBlank c = false := by
  rcases hc with hc | hc
  · cases ws with
    | nil => contradiction
    | cons w ws =>
        obtain ⟨hne, hfree⟩ := h w List.mem_cons_self
        obtain ⟨rest, hrest⟩ := exists_intercalate_eq_append [' '] w ws
        rw [hrest, List.head?_append, Option.or_of_isSome (List.isSome_head?.mpr hne)] at hc
        exact hfree c (List.mem_of_mem_head? hc)
  · rcases List.eq_nil_or_concat' ws with rfl | ⟨front, w, rfl⟩
    · contradiction
    · obtain ⟨hne, hfree⟩ := h w (List.mem_append_right _ List.mem_cons_self)
      rw [getLast?_intercalate_concat hne] at hc
      exact hfree c (List.mem_of_mem_getLast? hc)

/-- Behind joined words, blanks are cut off, and nothing else is. -/
theorem trim_intercalate_append {ws : List (List Char)} (h : ∀ w ∈ ws, IsWord w) {t : List Char}
    (ht : ∀ c ∈ t, isBlank c = true) :
    trim (List.intercalate [' '] ws ++ t) = List.intercalate [' '] ws := by
  rw [trim_append_blanks _ ht]
  exact trim_eq_self (fun c hc => isBlank_ends_intercalate h (.inl hc))
    fun c hc => isBlank_ends_intercalate h (.inr hc)

/-- Joined words have no blanks at their ends. -/
theorem trim_intercalate {ws : List (List Char)} (h : ∀ w ∈ ws, IsWord w) :
    trim (List.intercalate [' '] ws) = List.intercalate [' '] ws := by
  have htrim := trim_intercalate_append h (t := []) fun _ hc => by contradiction
  rwa [List.append_nil] at htrim

end Tablewright.Text

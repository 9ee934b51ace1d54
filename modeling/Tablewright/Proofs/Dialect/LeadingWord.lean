import Tablewright.Proofs.Dialect.BuiltinPatterns

/-! # Rules by their leading word

The rules of a built-in dialect ask for the word that a type starts with. Where that word ends is
decided by the type alone, so of all rules only those for this word can accept it, and of these the
first one whose tail accepts what stands behind the word. A `WordRule` is such a rule as data, which a
table can be searched for.

* `afterWord?_eq_some_iff_takeWhile`: the word of a rule has to be the whole leading word.
* `Tail.accepts_append`: what goes on behind a type that is accepted makes no difference to a tail.
* `resolve_eq_ok_iff`: the kind comes from the first fitting rule for the leading word. -/

namespace Tablewright.Dialect

open Unicode (isDigit isWord)

/-! ## Where the leading word ends -/

/-- A stretch of a class ends at a character that is not of the class. -/
theorem takeWhile_dropWhile_append_cons {p : Char → Bool} {b : Char} (hb : p b = false)
    (s u : List Char) :
    (s ++ b :: u).takeWhile p = s.takeWhile p ∧ (s ++ b :: u).dropWhile p = s.dropWhile p ++ b :: u := by
  induction s with
  | nil => simp [hb]
  | cons c s ih =>
      rw [List.cons_append]
      by_cases hc : p c = true
      · simp [hc, ih]
      · simp [hc]

/-- The stretch ends there, as `takeWhile_dropWhile_eq_iff` asks for it. -/
theorem eq_false_of_mem_head?_cons {p : Char → Bool} {b : Char} (hb : p b = false) (s : List Char) :
    ∀ c ∈ (b :: s).head?, p c = false := by
  intro c hc
  obtain rfl := Option.some.inj hc
  exact hb

/-- **The word of a rule has to be the whole leading word.** -/
theorem afterWord?_eq_some_iff_takeWhile {word : String} (hword : ∀ c ∈ word.toList, isWord c = true)
    {s rest : List Char} :
    afterWord? word s = some rest ↔ s.takeWhile isWord = word.toList ∧ s.dropWhile isWord = rest := by
  rw [afterWord?_eq_some_iff, takeWhile_dropWhile_eq_iff hword]

/-! ## What tails accept -/

/-- Digits in parentheses. -/
def IsWidth (width : List Char) : Prop :=
  ∃ digits : List Char, digits ≠ [] ∧ (∀ c ∈ digits, isDigit c = true) ∧ width = '(' :: (digits ++ [')'])

/-- The text starts with ` unsigned`, or does so behind a width. -/
def GoesOnUnsigned (s : List Char) : Prop :=
  ∃ w, (w = [] ∨ IsWidth w) ∧ w ++ " unsigned".toList <+: s

namespace Tail

variable {s u : List Char}

/-- A fixed text can be passed over exactly when it is a prefix. -/
theorem isSome_after?_iff {ks : List Char} : (after? ks s).isSome = true ↔ ks <+: s := by
  rw [Option.isSome_iff_exists]
  simp only [after?_eq_some_iff]
  exact exists_congr fun rest => eq_comm

/-- Passing over a width removes digits in parentheses and nothing else. -/
theorem afterWidth?_eq_some_iff {rest : List Char} :
    afterWidth? s = some rest ↔ ∃ width, IsWidth width ∧ s = width ++ rest := by
  have hsteps : (∃ r ∈ afterWidth? s, r = rest) ↔ afterWidth? s = some rest := by simp
  rw [← hsteps, exists_mem_afterWidth?_iff]
  simp only [Option.mem_def, after?_eq_some_iff, afterDigits?_eq_some_iff]
  constructor
  · rintro ⟨_, rfl, _, ⟨digits, rfl, hne, hall, -⟩, _, rfl, rfl⟩
    exact ⟨_, ⟨digits, hne, hall, rfl⟩, by simp⟩
  · rintro ⟨_, ⟨digits, hne, hall, rfl⟩, rfl⟩
    refine ⟨_, rfl, ')' :: rest, ⟨digits, by simp, hne, hall, ?_⟩, rest, rfl, rfl⟩
    exact eq_false_of_mem_head?_cons (by decide) rest

/-- A text that starts with a width goes on behind it. -/
theorem accepts_width_iff : width.accepts s = true ↔ ∃ w, IsWidth w ∧ w <+: s := by
  rw [Tail.accepts, Option.isSome_iff_exists]
  simp only [afterWidth?_eq_some_iff]
  constructor
  · rintro ⟨rest, w, hw, rfl⟩
    exact ⟨w, hw, List.prefix_append w rest⟩
  · rintro ⟨w, hw, rest, rfl⟩
    exact ⟨rest, w, hw, rfl⟩

/-- A text is accepted behind a width of one when it starts with that width. -/
theorem accepts_one_iff : one.accepts s = true ↔ "(1)".toList <+: s :=
  isSome_after?_iff

/-- A text is accepted as unsigned when it goes on as such, a width before the word or not. -/
theorem accepts_unsigned_iff : unsigned.accepts s = true ↔ GoesOnUnsigned s := by
  rw [Tail.accepts, isSome_after?_iff]
  constructor
  · intro h
    cases hwidth : afterWidth? s with
    | none =>
        rw [hwidth] at h
        exact ⟨[], Or.inl rfl, h⟩
    | some rest =>
        obtain ⟨w, hw, rfl⟩ := afterWidth?_eq_some_iff.mp hwidth
        rw [hwidth] at h
        exact ⟨w, Or.inr hw, (List.prefix_append_right_inj w).mpr h⟩
  · rintro ⟨w, rfl | hw, h⟩
    · -- a text that starts with a space does not start with a width
      have hnone : afterWidth? s = none := by
        obtain ⟨rest, rfl⟩ := h
        rfl
      rw [hnone]
      exact h
    · obtain ⟨rest, rfl⟩ := h
      rw [afterWidth?_eq_some_iff.mpr ⟨w, hw, List.append_assoc w " unsigned".toList rest⟩]
      exact List.prefix_append _ rest

/-- A text is accepted as having a precision when it starts with two numbers in parentheses. -/
theorem accepts_precision_iff :
    precision.accepts s = true ↔
      ∃ digits scale, digits ≠ [] ∧ scale ≠ [] ∧ (∀ c ∈ digits, isDigit c = true) ∧
        (∀ c ∈ scale, isDigit c = true) ∧ '(' :: (digits ++ ',' :: (scale ++ [')'])) <+: s := by
  have hsteps : (∃ rest ∈ afterPrecision? s, True) ↔ precision.accepts s = true := by
    simp [Tail.accepts, Option.isSome_iff_exists]
  rw [← hsteps, exists_mem_afterPrecision?_iff]
  simp only [Option.mem_def, after?_eq_some_iff, afterDigits?_eq_some_iff, and_true]
  constructor
  · rintro ⟨_, rfl, _, ⟨digits, rfl, hne, hall, -⟩, _, rfl, _, ⟨scale, rfl, hne', hall', -⟩, rest, rfl⟩
    exact ⟨digits, scale, hne, hne', hall, hall', rest, by simp⟩
  · rintro ⟨digits, scale, hne, hne', hall, hall', rest, rfl⟩
    -- the digits end at the comma, and those of the scale at the parenthesis
    refine ⟨_, rfl, ',' :: (scale ++ ')' :: rest), ⟨digits, by simp, hne, hall, ?_⟩, _, rfl,
      ')' :: rest, ⟨scale, by simp, hne', hall', ?_⟩, rest, rfl⟩
    · exact eq_false_of_mem_head?_cons (by decide) _
    · exact eq_false_of_mem_head?_cons (by decide) rest

/-- **What goes on behind a text makes no difference** to a tail that accepts the text. -/
theorem accepts_append {tail : Tail} (h : tail.accepts s = true) (u : List Char) :
    tail.accepts (s ++ u) = true := by
  have hprefix : s <+: s ++ u := List.prefix_append s u
  cases tail with
  | free => rfl
  | one => exact accepts_one_iff.mpr ((accepts_one_iff.mp h).trans hprefix)
  | width =>
      obtain ⟨w, hw, hs⟩ := accepts_width_iff.mp h
      exact accepts_width_iff.mpr ⟨w, hw, hs.trans hprefix⟩
  | precision =>
      obtain ⟨digits, scale, hdigits, hscale, hall, hall', hs⟩ := accepts_precision_iff.mp h
      exact accepts_precision_iff.mpr
        ⟨digits, scale, hdigits, hscale, hall, hall', hs.trans hprefix⟩
  | members =>
      obtain ⟨v, rest, rfl, hne, hall⟩ := startsWithMembers_iff.mp h
      exact startsWithMembers_iff.mpr ⟨v, rest ++ u, by simp, hne, hall⟩
  | unsigned =>
      obtain ⟨w, hw, hs⟩ := accepts_unsigned_iff.mp h
      exact accepts_unsigned_iff.mpr ⟨w, hw, hs.trans hprefix⟩

/-- `(1)` does not come together across a space. -/
theorem accepts_one_of_append_space (h : one.accepts (s ++ ' ' :: u) = true) :
    one.accepts s = true := by
  rw [accepts_one_iff] at h ⊢
  rcases List.prefix_or_prefix_of_prefix h (List.prefix_append s (' ' :: u)) with hs | ⟨v, hv⟩
  · exact hs
  · rw [← hv] at h
    cases v with
    | nil =>
        rw [List.append_nil] at hv
        exact hv ▸ List.prefix_rfl
    | cons c v =>
        have hc : c = ' ' := by
          obtain ⟨rest, hrest⟩ := (List.prefix_append_right_inj s).mp h
          exact (List.cons.inj hrest).1
        have hspace : ' ' ∈ "(1)".toList := by
          rw [← hv, hc]
          simp
        exact absurd hspace (by decide)

end Tail

instance (s : List Char) : Decidable (GoesOnUnsigned s) :=
  decidable_of_iff _ Tail.accepts_unsigned_iff

/-! ## Rules for a word -/

/-- A rule for one spelling, as data. -/
structure WordRule where
  word : String
  tail : Tail
  kind : ColumnKind
  deriving DecidableEq

namespace WordRule

/-- The rule. -/
def rule (r : WordRule) : Rule :=
  spelled r.word r.tail r.kind

/-- The rule is for a word. -/
def IsForWord (r : WordRule) : Prop :=
  r.word.toList ≠ [] ∧ ∀ c ∈ r.word.toList, isWord c = true

instance (r : WordRule) : Decidable r.IsForWord :=
  decidable_of_iff (_ ∧ r.word.toList.all isWord = true)
    (and_congr_right fun _ => List.all_eq_true)

/-- Does the rule fit a leading word and what stands behind it? -/
def fits (r : WordRule) (word rest : List Char) : Bool :=
  r.word.toList == word && r.tail.accepts rest

/-- A rule fits a word and what follows it if the word is its own and its tail accepts the rest. -/
theorem fits_iff {r : WordRule} {word rest : List Char} :
    r.fits word rest = true ↔ r.word.toList = word ∧ r.tail.accepts rest = true := by
  rw [fits, Bool.and_eq_true, beq_iff_eq]

/-- A rule accepts a type exactly if it fits the leading word and what stands behind it. -/
theorem accepts_rule {r : WordRule} (h : r.IsForWord) (s : List Char) :
    r.rule.accepts s = r.fits (s.takeWhile isWord) (s.dropWhile isWord) := by
  rw [Bool.eq_iff_iff, rule, accepts_spelled_iff, fits_iff]
  simp only [Option.mem_def, afterWord?_eq_some_iff_takeWhile h.2]
  constructor
  · rintro ⟨rest, ⟨hword, rfl⟩, htail⟩
    exact ⟨hword.symm, htail⟩
  · rintro ⟨hword, htail⟩
    exact ⟨_, ⟨hword.symm, rfl⟩, htail⟩

end WordRule

/-- The rules for the words of some spellings. -/
def wordRules (spellings : List Spelling) : List WordRule :=
  (spellings.filter fun s => s.ending.isExact).flatMap fun s =>
    s.words.map fun word => ⟨word, s.ending.tail, s.kind⟩

/-- The word rules of two runs of spellings are those of the first, then those of the second. -/
theorem wordRules_append (spellings spellings' : List Spelling) :
    wordRules (spellings ++ spellings') = wordRules spellings ++ wordRules spellings' := by
  rw [wordRules, List.filter_append, List.flatMap_append]
  rfl

/-- The rules of spellings are the rules of their words. -/
theorem rulesOfSpellings_eq_map (spellings : List Spelling) :
    rulesOfSpellings spellings = (wordRules spellings).map WordRule.rule := by
  rw [rulesOfSpellings, wordRules, List.map_flatMap]
  simp only [List.map_map]
  rfl

/-- Only the rules for the leading word are asked. -/
theorem find?_fits (table : List WordRule) (word rest : List Char) :
    table.find? (fun r => r.fits word rest) =
      (table.filter fun r => r.word.toList == word).find? fun r => r.tail.accepts rest := by
  rw [List.find?_filter]
  congr 1
  funext r
  rw [WordRule.fits, Bool.decide_and, Bool.decide_eq_true, Bool.decide_eq_true]

/-- **The kind comes from the first fitting rule for the leading word.** -/
theorem resolve_eq_ok_iff {table : List WordRule} (htable : ∀ r ∈ table, r.IsForWord) {raw : String}
    {kind : ColumnKind} :
    resolve (table.map WordRule.rule) raw = .ok kind ↔
      ∃ r, table.find? (fun r => r.fits ((normalized raw).takeWhile isWord)
        ((normalized raw).dropWhile isWord)) = some r ∧ r.kind = kind := by
  have hfind : (table.map WordRule.rule).find? (fun rule => rule.accepts (normalized raw)) =
      (table.find? fun r => r.fits ((normalized raw).takeWhile isWord)
        ((normalized raw).dropWhile isWord)).map WordRule.rule := by
    rw [List.find?_map]
    congr 1
    rw [← List.head?_filter, ← List.head?_filter]
    exact congrArg List.head? (List.filter_congr fun r hr => WordRule.accepts_rule (htable r hr) _)
  rw [resolve, hfind]
  cases table.find? fun r => r.fits ((normalized raw).takeWhile isWord)
      ((normalized raw).dropWhile isWord) with
  | none => simp
  | some r => simp [WordRule.rule, spelled]

/-! ## The built-in dialects -/

/-- The MySQL rules are the rules of words. -/
theorem mysqlRules_eq_map : mysqlRules = (wordRules mysqlSpellings).map WordRule.rule := by
  rw [mysqlRules_eq, rulesOfSpellings_eq_map]

/-- The TiDB rules are the rules of words. -/
theorem tidbRules_eq_map :
    tidbRules = (wordRules (mysqlSpellings ++ tidbExtraSpellings)).map WordRule.rule := by
  rw [tidbRules_eq, rulesOfSpellings_eq_map]

/-- Every TiDB rule is for a word. -/
theorem isForWord_tidb : ∀ r ∈ wordRules (mysqlSpellings ++ tidbExtraSpellings), r.IsForWord := by
  decide +kernel

/-- Every MySQL rule is for a word. -/
theorem isForWord_mysql : ∀ r ∈ wordRules mysqlSpellings, r.IsForWord := by
  intro r hr
  refine isForWord_tidb r ?_
  rw [wordRules_append]
  exact List.mem_append_left _ hr

end Tablewright.Dialect

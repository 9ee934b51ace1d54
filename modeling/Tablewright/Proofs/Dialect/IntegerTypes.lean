import Tablewright.Proofs.Dialect.LeadingWord

/-! # Integer types

MySQL knows six words for integers. A type is an integer or a boolean exactly if it starts with one of
them, as a whole word; what stands behind the word then decides between a boolean, an unsigned integer
and a signed one.

* `filter_mysql_eq`: the rules for an integer word.
* `mysql_kindOf_integer`: the integer types of MySQL, and their kinds. -/

namespace Tablewright.Dialect

open Unicode (isWord)

/-- A word for integers, with the kinds of its width. -/
structure IntegerWord where
  word : String
  signed : ColumnKind
  unsigned : ColumnKind
  deriving DecidableEq

/-- The words for integers. -/
def integerWords : List IntegerWord :=
  [⟨"tinyint", .int8, .uint8⟩, ⟨"smallint", .int16, .uint16⟩, ⟨"mediumint", .int32, .uint32⟩,
    ⟨"int", .int32, .uint32⟩, ⟨"integer", .int32, .uint32⟩, ⟨"bigint", .int64, .uint64⟩]

/-- The kind that an integer type can get: an integer, or a boolean. -/
def IsIntegerOrBool (kind : ColumnKind) : Prop :=
  kind.isInteger = true ∨ kind = .bool

instance (kind : ColumnKind) : Decidable (IsIntegerOrBool kind) :=
  inferInstanceAs (Decidable (_ ∨ _))

/-- The rules for an integer word. -/
def IntegerWord.rules (w : IntegerWord) : List WordRule :=
  (if w.word = "tinyint" then [⟨w.word, .one, .bool⟩] else []) ++
    [⟨w.word, .unsigned, w.unsigned⟩, ⟨w.word, .free, w.signed⟩]

/-! ## The rules for integer words -/

/-- The MySQL rules for an integer word are the rules listed with it. -/
theorem filter_mysql_eq : ∀ w ∈ integerWords,
    (wordRules mysqlSpellings).filter (fun r => r.word.toList == w.word.toList) = w.rules := by
  decide +kernel

/-- Every MySQL rule that gives an integer or a boolean is for one of the integer words. -/
theorem exists_integerWord_of_mem : ∀ r ∈ wordRules mysqlSpellings,
    IsIntegerOrBool r.kind → ∃ w ∈ integerWords, w.word = r.word := by
  decide +kernel

/-- Both kinds of an integer word are integers or booleans. -/
theorem isIntegerOrBool_of_mem : ∀ w ∈ integerWords,
    IsIntegerOrBool w.signed ∧ IsIntegerOrBool w.unsigned := by
  decide

/-- Words for integers are words, as rules are for them. -/
theorem isWord_of_mem_integerWords {w : IntegerWord} (hw : w ∈ integerWords) :
    ∀ c ∈ w.word.toList, isWord c = true := by
  have hrule : (⟨w.word, .free, w.signed⟩ : WordRule) ∈ w.rules := by simp [IntegerWord.rules]
  rw [← filter_mysql_eq w hw] at hrule
  exact (isForWord_mysql _ (List.mem_of_mem_filter hrule)).2

/-! ## Integer types -/

variable {raw : String} {kind : ColumnKind}

/-- The MySQL mapper takes the kind of the first rule that fits the leading word and what follows it. -/
theorem mysql_kindOf_eq_ok_iff :
    mysql.kindOf raw = .ok kind ↔
      ∃ r, (wordRules mysqlSpellings).find? (fun r => r.fits ((normalized raw).takeWhile isWord)
        ((normalized raw).dropWhile isWord)) = some r ∧ r.kind = kind := by
  rw [← resolve_eq_ok_iff isForWord_mysql, ← mysqlRules_eq_map]
  rfl

/-- Of the rules for an integer word, the most special one that accepts is found first. -/
theorem IntegerWord.find?_rules (w : IntegerWord) (r : List Char) :
    w.rules.find? (fun rule => rule.tail.accepts r) =
      some (if w.word = "tinyint" ∧ "(1)".toList <+: r then ⟨w.word, .one, .bool⟩
        else if GoesOnUnsigned r then ⟨w.word, .unsigned, w.unsigned⟩
        else ⟨w.word, .free, w.signed⟩) := by
  -- the last rule of a word accepts whatever follows
  have hfree : Tail.free.accepts r = true := rfl
  simp only [IntegerWord.rules, ← Tail.accepts_one_iff, ← Tail.accepts_unsigned_iff]
  by_cases hword : w.word = "tinyint"
  · rw [if_pos hword]
    by_cases hone : Tail.one.accepts r = true
    · simp [hword, hone]
    · by_cases hunsigned : Tail.unsigned.accepts r = true
      · simp [hone, hunsigned]
      · simp [hone, hunsigned, hfree]
  · rw [if_neg hword]
    by_cases hunsigned : Tail.unsigned.accepts r = true
    · simp [hword, hunsigned]
    · simp [hword, hunsigned, hfree]

/-- Behind an integer word, its own rules decide. -/
theorem mysql_kindOf_of_integerWord {w : IntegerWord} (hw : w ∈ integerWords) {r : List Char}
    (hraw : normalized raw = w.word.toList ++ r) (hend : ∀ c ∈ r.head?, isWord c = false) :
    mysql.kindOf raw = .ok (if w.word = "tinyint" ∧ "(1)".toList <+: r then .bool
      else if GoesOnUnsigned r then w.unsigned else w.signed) := by
  obtain ⟨hword, hrest⟩ :=
    (takeWhile_dropWhile_eq_iff (isWord_of_mem_integerWords hw)).mpr ⟨hraw, hend⟩
  rw [mysql_kindOf_eq_ok_iff, hword, hrest, find?_fits, filter_mysql_eq w hw, w.find?_rules]
  refine ⟨_, rfl, ?_⟩
  rw [apply_ite WordRule.kind, apply_ite WordRule.kind]

/-- The kinds behind an integer word, the most special first. -/
theorem mysql_kindOf_behind {w : IntegerWord} (hw : w ∈ integerWords) {r : List Char}
    (hraw : normalized raw = w.word.toList ++ r) (hend : ∀ c ∈ r.head?, isWord c = false) :
    (w.word = "tinyint" ∧ "(1)".toList <+: r → mysql.kindOf raw = .ok .bool) ∧
      (¬(w.word = "tinyint" ∧ "(1)".toList <+: r) → GoesOnUnsigned r →
        mysql.kindOf raw = .ok w.unsigned) ∧
      (¬(w.word = "tinyint" ∧ "(1)".toList <+: r) → ¬GoesOnUnsigned r →
        mysql.kindOf raw = .ok w.signed) := by
  rw [mysql_kindOf_of_integerWord hw hraw hend]
  refine ⟨fun hone => ?_, fun hnot hunsigned => ?_, fun hnot hsigned => ?_⟩
  · rw [if_pos hone]
  · rw [if_neg hnot, if_pos hunsigned]
  · rw [if_neg hnot, if_neg hsigned]

/-- **The integer types of MySQL.** A raw type is one of an integer or a boolean exactly if, trimmed and
in lower case, it starts with one of six words, which ends there. It is a boolean for `tinyint(1)`, or
else unsigned if ` unsigned` follows, perhaps behind digits in parentheses, or else signed, in the width
of the word. -/
theorem mysql_kindOf_integer (raw : String) :
    ((∃ kind, mysql.kindOf raw = .ok kind ∧ (kind.isInteger = true ∨ kind = .bool)) ↔
      ∃ w ∈ integerWords, ∃ r, normalized raw = w.word.toList ++ r ∧ ∀ c ∈ r.head?, isWord c = false) ∧
    ∀ w ∈ integerWords, ∀ r, normalized raw = w.word.toList ++ r → (∀ c ∈ r.head?, isWord c = false) →
      (w.word = "tinyint" ∧ "(1)".toList <+: r → mysql.kindOf raw = .ok .bool) ∧
      (¬(w.word = "tinyint" ∧ "(1)".toList <+: r) → GoesOnUnsigned r →
        mysql.kindOf raw = .ok w.unsigned) ∧
      (¬(w.word = "tinyint" ∧ "(1)".toList <+: r) → ¬GoesOnUnsigned r →
        mysql.kindOf raw = .ok w.signed) := by
  refine ⟨⟨?_, ?_⟩, fun w hw r hraw hend => mysql_kindOf_behind hw hraw hend⟩
  · rintro ⟨kind, hkind, hint⟩
    obtain ⟨rule, hfind, rfl⟩ := mysql_kindOf_eq_ok_iff.mp hkind
    -- a rule with such a kind is for one of the words, which is the leading word then
    obtain ⟨w, hw, hword⟩ :=
      exists_integerWord_of_mem rule (List.mem_of_find?_eq_some hfind) hint
    have hfits := List.find?_some hfind
    obtain ⟨hlead, -⟩ := WordRule.fits_iff.mp hfits
    obtain ⟨hraw, hend⟩ := (takeWhile_dropWhile_eq_iff (isWord_of_mem_integerWords hw)).mp
      ⟨by rw [hword, hlead], rfl⟩
    exact ⟨w, hw, _, hraw, hend⟩
  · rintro ⟨w, hw, r, hraw, hend⟩
    obtain ⟨hbool, hunsigned, hsigned⟩ := mysql_kindOf_behind hw hraw hend
    obtain ⟨hsignedInt, hunsignedInt⟩ := isIntegerOrBool_of_mem w hw
    by_cases hone : w.word = "tinyint" ∧ "(1)".toList <+: r
    · exact ⟨_, hbool hone, Or.inr rfl⟩
    · by_cases hgoes : GoesOnUnsigned r
      · exact ⟨_, hunsigned hone hgoes, hunsignedInt⟩
      · exact ⟨_, hsigned hone hgoes, hsignedInt⟩

/-- A second space in front of `unsigned` makes a type signed. -/
theorem mysql_kindOf_integer_spaces :
    normalized " INTEGER(8) Unsigned" = "integer".toList ++ "(8) unsigned".toList ∧
      mysql.kindOf " INTEGER(8) Unsigned" = .ok .uint32 ∧
      normalized "integer(8)  unsigned" = "integer".toList ++ "(8)  unsigned".toList ∧
      mysql.kindOf "integer(8)  unsigned" = .ok .int32 := by
  have hw : (⟨"integer", .int32, .uint32⟩ : IntegerWord) ∈ integerWords := by decide
  have hone : normalized " INTEGER(8) Unsigned" = "integer".toList ++ "(8) unsigned".toList := by
    decide +kernel
  have htwo : normalized "integer(8)  unsigned" = "integer".toList ++ "(8)  unsigned".toList := by
    decide +kernel
  have hend : isWord '(' = false := by decide +kernel
  obtain ⟨-, hkinds⟩ := mysql_kindOf_integer " INTEGER(8) Unsigned"
  obtain ⟨-, hunsigned, -⟩ := hkinds _ hw _ hone (eq_false_of_mem_head?_cons hend _)
  obtain ⟨-, hkinds'⟩ := mysql_kindOf_integer "integer(8)  unsigned"
  obtain ⟨-, -, hsigned⟩ := hkinds' _ hw _ htwo (eq_false_of_mem_head?_cons hend _)
  exact ⟨hone, hunsigned (by decide) (by decide +kernel), htwo,
    hsigned (by decide) (by decide +kernel)⟩

end Tablewright.Dialect

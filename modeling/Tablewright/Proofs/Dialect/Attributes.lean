import Tablewright.Proofs.Dialect.LeadingWord
import Tablewright.Proofs.Text.Words
import Tablewright.Proofs.Unicode.Case

/-! # What stands around and behind a type

A raw type may be written in upper or lower case, with blanks around it, and attributes such as a
character set may follow it. Neither the case nor the blanks change its kind. Attributes do not make it
unknown, and they change its kind in one way only: a signed integer can become unsigned. This comes
down to the tables: where two of their rules are for one word, the first of them gives the kind of the
second or its unsigned counterpart, or it asks for `(1)`, which no attribute brings in (`IsSteady`).

* `normalized_surrounded`: case and blanks around do not show in what rules see.
* `find?_fits_append_space`: what a steady table finds when attributes follow.
* `kindOf_surrounded_attributes`: both dialects. -/

namespace Tablewright

/-- The unsigned counterpart of a signed integer kind. -/
def ColumnKind.unsigned? : ColumnKind → Option ColumnKind
  | int8 => some uint8
  | int16 => some uint16
  | int32 => some uint32
  | int64 => some uint64
  | int => some uint
  | _ => none

namespace Dialect

open Text (trim)
open Unicode (asciiLower isBlank isWord)

/-! ## Case and blanks -/

/-- It makes no difference whether letters are made lower case before or after trimming. -/
theorem asciiLower_trim (s : List Char) : asciiLower (trim s) = trim (asciiLower s) := by
  have hblank : isBlank ∘ Char.toLower = isBlank := funext Unicode.isBlank_toLower
  simp only [trim, Text.trimOf, Text.trimRightOf, asciiLower, List.dropWhile_map, ← List.map_reverse,
    hblank]

/-- **Case and blanks around do not show** in what rules see. -/
theorem normalized_surrounded {raw : String} {before core after : List Char}
    (hbefore : ∀ c ∈ before, isBlank c = true) (hafter : ∀ c ∈ after, isBlank c = true)
    (hcore : asciiLower core = asciiLower raw.toList) :
    normalized (String.ofList (before ++ core ++ after)) = normalized raw := by
  rw [normalized, String.toList_ofList, Text.trim_append_blanks _ hafter,
    Text.trim_blanks_append hbefore, asciiLower_trim, hcore, ← asciiLower_trim]
  rfl

/-- The kind of a raw type is read off what rules see. -/
theorem toOption_resolve_congr (table : List Rule) {raw raw' : String}
    (h : normalized raw = normalized raw') :
    (resolve table raw).toOption = (resolve table raw').toOption := by
  rw [resolve, resolve, h]
  cases table.find? fun rule => rule.accepts (normalized raw') <;> rfl

/-! ## Attributes -/

/-- What rules see of a type with something behind it: the type, and nothing or something behind a
space. -/
theorem normalized_append_space {raw : String} (hne : trim raw.toList ≠ []) (t : List Char) :
    normalized (String.ofList (trim raw.toList ++ ' ' :: t)) = normalized raw ∨
      ∃ u, normalized (String.ofList (trim raw.toList ++ ' ' :: t)) = normalized raw ++ ' ' :: u := by
  simp only [normalized, String.toList_ofList, Text.trim_trim_append_cons hne Text.isBlank_space]
  split
  · exact Or.inl rfl
  · exact Or.inr ⟨_, List.map_append⟩

/-- Where two rules are for one word, does the first one agree with the second one about the kind, up to
an unsigned counterpart, or ask for `(1)`? -/
def IsSteady (table : List WordRule) : Prop :=
  table.Pairwise fun r r' => r.word = r'.word →
    r.kind = r'.kind ∨ r'.kind.unsigned? = some r.kind ∨ r.tail = .one

instance (table : List WordRule) : Decidable (IsSteady table) :=
  inferInstanceAs (Decidable (List.Pairwise _ _))

/-- The first fitting rule comes in front of any other fitting one. -/
theorem find?_append_cons_eq_some {α : Type} {p : α → Bool} {a : α} (ha : p a = true)
    (before after : List α) :
    ∃ b, (before ++ a :: after).find? p = some b ∧ (b = a ∨ b ∈ before ∧ p b = true) := by
  rw [List.find?_append]
  cases hfind : before.find? p with
  | none => exact ⟨a, by rw [Option.none_or, List.find?_cons_of_pos ha], Or.inl rfl⟩
  | some b =>
      exact ⟨b, rfl, Or.inr ⟨List.mem_of_find?_eq_some hfind, List.find?_some hfind⟩⟩

/-- **What a steady table finds when attributes follow**: a rule of the same kind, or of its unsigned
counterpart. -/
theorem find?_fits_append_space {table : List WordRule} (hsteady : IsSteady table)
    {word rest : List Char} {r : WordRule} (h : table.find? (fun r => r.fits word rest) = some r)
    (u : List Char) :
    ∃ r', table.find? (fun r => r.fits word (rest ++ ' ' :: u)) = some r' ∧
      (r'.kind = r.kind ∨ r.kind.unsigned? = some r'.kind) := by
  obtain ⟨hfits, before, after, rfl, hbefore⟩ := List.find?_eq_some_iff_append.mp h
  obtain ⟨hword, htail⟩ := WordRule.fits_iff.mp hfits
  have hfits' : r.fits word (rest ++ ' ' :: u) = true :=
    WordRule.fits_iff.mpr ⟨hword, Tail.accepts_append htail _⟩
  obtain ⟨r', hr', rfl | ⟨hmem, hnew⟩⟩ :=
    find?_append_cons_eq_some (p := fun r => r.fits word (rest ++ ' ' :: u)) hfits' before after
  · exact ⟨r', hr', Or.inl rfl⟩
  · -- a rule in front of the one that fitted fits only now
    obtain ⟨hword', htail'⟩ := WordRule.fits_iff.mp hnew
    have hold : ¬r'.fits word rest = true := by simpa using hbefore r' hmem
    have hsame : r'.word = r.word := by rw [← String.toList_inj, hword', hword]
    obtain ⟨-, -, hpair⟩ := List.pairwise_append.mp hsteady
    refine ⟨r', hr', ?_⟩
    rcases hpair r' hmem r List.mem_cons_self hsame with hkind | hunsigned | hone
    · exact Or.inl hkind
    · exact Or.inr hunsigned
    · -- `(1)` would have been there before
      rw [hone] at htail'
      have hearlier : r'.tail.accepts rest = true := by
        rw [hone]
        exact Tail.accepts_one_of_append_space htail'
      exact absurd (WordRule.fits_iff.mpr ⟨hword', hearlier⟩) hold

/-- A type that is known has a leading word. -/
theorem trim_ne_nil_of_find?_eq_some {table : List WordRule} (htable : ∀ r ∈ table, r.IsForWord)
    {raw : String} {r : WordRule}
    (h : table.find? (fun r => r.fits ((normalized raw).takeWhile isWord)
      ((normalized raw).dropWhile isWord)) = some r) : trim raw.toList ≠ [] := by
  intro hnil
  have hraw : normalized raw = [] := by
    rw [normalized, hnil]
    rfl
  rw [hraw] at h
  have hfits := List.find?_some h
  obtain ⟨hword, -⟩ := WordRule.fits_iff.mp hfits
  exact (htable r (List.mem_of_find?_eq_some h)).1 hword

/-- **Attributes behind a type** leave it its kind, or make a signed integer unsigned. -/
theorem exists_resolve_append_space {table : List WordRule} (htable : ∀ r ∈ table, r.IsForWord)
    (hsteady : IsSteady table) {raw : String} {kind : ColumnKind}
    (h : resolve (table.map WordRule.rule) raw = .ok kind) (t : List Char) :
    ∃ kind', resolve (table.map WordRule.rule) (String.ofList (trim raw.toList ++ ' ' :: t)) =
        .ok kind' ∧ (kind' = kind ∨ kind.unsigned? = some kind') := by
  have hspace : isWord ' ' = false := by decide +kernel
  obtain ⟨r, hr, rfl⟩ := (resolve_eq_ok_iff htable).mp h
  simp only [resolve_eq_ok_iff htable]
  rcases normalized_append_space (trim_ne_nil_of_find?_eq_some htable hr) t with hsame | ⟨u, hu⟩
  · rw [hsame]
    exact ⟨r.kind, ⟨r, hr, rfl⟩, Or.inl rfl⟩
  · -- the leading word ends at the space at the latest
    obtain ⟨hword, hrest⟩ := takeWhile_dropWhile_append_cons hspace (normalized raw) u
    obtain ⟨r', hr', hkind⟩ := find?_fits_append_space hsteady hr u
    rw [hu, hword, hrest]
    exact ⟨r'.kind, ⟨r', hr', rfl⟩, hkind⟩

/-! ## The built-in dialects -/

/-- The TiDB rules are steady. -/
theorem isSteady_tidb : IsSteady (wordRules (mysqlSpellings ++ tidbExtraSpellings)) := by
  decide +kernel

/-- The MySQL rules are steady. -/
theorem isSteady_mysql : IsSteady (wordRules mysqlSpellings) := by
  have htidb := isSteady_tidb
  rw [IsSteady, wordRules_append, List.pairwise_append] at htidb
  exact htidb.1

/-- A built-in dialect is a steady table of rules for words. -/
theorem exists_steady_table {m : Mapper} (hm : m = mysql ∨ m = tidb) :
    ∃ table : List WordRule, (∀ r ∈ table, r.IsForWord) ∧ IsSteady table ∧
      m.kindOf = resolve (table.map WordRule.rule) := by
  rcases hm with rfl | rfl
  · refine ⟨_, isForWord_mysql, isSteady_mysql, ?_⟩
    rw [← mysqlRules_eq_map]
    rfl
  · refine ⟨_, isForWord_tidb, isSteady_tidb, ?_⟩
    rw [← tidbRules_eq_map]
    rfl

/-- **Case, blanks around and attributes.** To either dialect a raw type is the same in upper and lower
case and with blanks around it. With a space and any text behind it, a type that it knows stays known:
its kind stays, or is the unsigned counterpart of a signed integer. -/
theorem kindOf_surrounded_attributes {m : Mapper} (hm : m = mysql ∨ m = tidb) (raw : String) :
    (∀ before core after : List Char, (∀ c ∈ before, isBlank c = true) →
      (∀ c ∈ after, isBlank c = true) → asciiLower core = asciiLower raw.toList →
        (m.kindOf (String.ofList (before ++ core ++ after))).toOption = (m.kindOf raw).toOption) ∧
    ∀ kind, m.kindOf raw = .ok kind → ∀ t : List Char,
      ∃ kind', m.kindOf (String.ofList (trim raw.toList ++ ' ' :: t)) = .ok kind' ∧
        (kind' = kind ∨ kind.unsigned? = some kind') := by
  obtain ⟨table, htable, hsteady, htab⟩ := exists_steady_table hm
  rw [htab]
  refine ⟨fun before core after hbefore hafter hcore => ?_, fun kind hkind t => ?_⟩
  · exact toOption_resolve_congr _ (normalized_surrounded hbefore hafter hcore)
  · exact exists_resolve_append_space htable hsteady hkind t

/-- TiDB knows ` Decimal(10)` like `decimal(10)`, also with `unsigned zerofill` behind it; a `smallint`
becomes unsigned with it. -/
theorem kindOf_surrounded_attributes_tidb :
    (tidb.kindOf "\t Decimal(10)\n").toOption = (tidb.kindOf "decimal(10)").toOption ∧
      tidb.kindOf "smallint" = .ok .int16 ∧ ∃ kind, tidb.kindOf "smallint unsigned zerofill" = .ok kind ∧
        (kind = .int16 ∨ ColumnKind.unsigned? .int16 = some kind) := by
  have hsmall : tidb.kindOf "smallint" = .ok .int16 := by decide +kernel
  obtain ⟨hsurrounded, -⟩ := kindOf_surrounded_attributes (Or.inr rfl : tidb = mysql ∨ _) "decimal(10)"
  obtain ⟨-, hattributes⟩ := kindOf_surrounded_attributes (Or.inr rfl : tidb = mysql ∨ _) "smallint"
  have hbefore : ∀ c ∈ "\t ".toList, isBlank c = true := List.all_eq_true.mp (by decide +kernel)
  have hafter : ∀ c ∈ "\n".toList, isBlank c = true := List.all_eq_true.mp (by decide +kernel)
  have hcase : asciiLower "Decimal(10)".toList = asciiLower "decimal(10)".toList := by decide +kernel
  exact ⟨hsurrounded "\t ".toList "Decimal(10)".toList "\n".toList hbefore hafter hcase, hsmall,
    hattributes _ hsmall "unsigned zerofill".toList⟩

end Dialect

end Tablewright

import Tablewright.Dialect.Builtin
import Tablewright.Dialect.PatternRules
import Tablewright.Proofs.Lists
import Tablewright.Proofs.Pattern.Library

/-! # Rule tables in a row

In a table that consists of two, the rules of the first one are asked first, so those of the second one
decide about the raw types that the first does not know.

A table that is written as patterns is put together by a library that tells of all patterns at once which are
found. It decides as the patterns do one by one, so the same goes for patterns in a row.

* `resolve_append`: what a table that consists of two makes of a raw type.
* `resolve_rulesOfPatterns`: what a table of patterns makes of a raw type.
* `resolve_rulesOfPatterns_append`: patterns in a row. -/

namespace Tablewright.Dialect

open Pattern (FoundIn InvalidPattern LawfulLibrary Library)

/-! ## The first rule that accepts -/

/-- Does a rule of the table accept the raw type? -/
def Knows (table : List Rule) (raw : String) : Prop :=
  ∃ rule ∈ table, rule.accepts (normalized raw) = true

instance (table : List Rule) (raw : String) : Decidable (Knows table raw) :=
  inferInstanceAs (Decidable (∃ rule ∈ table, rule.accepts (normalized raw) = true))

variable {table table' : List Rule} {raw : String}

/-- A kind comes from a rule that accepts the raw type. -/
theorem exists_rule_of_resolve_eq_ok {kind : ColumnKind} (h : resolve table raw = .ok kind) :
    ∃ rule ∈ table, rule.accepts (normalized raw) = true ∧ rule.kind = kind := by
  rw [resolve] at h
  split at h
  · rename_i rule hfind
    have haccepts : rule.accepts (normalized raw) = true := by simpa using List.find?_some hfind
    exact ⟨rule, List.mem_of_find?_eq_some hfind, haccepts, Except.ok.inj h⟩
  · contradiction

/-- There is a kind for the raw types that are known. -/
theorem exists_resolve_eq_ok_iff :
    (∃ kind, resolve table raw = .ok kind) ↔ Knows table raw := by
  constructor
  · rintro ⟨kind, hkind⟩
    obtain ⟨rule, hmem, haccepts, -⟩ := exists_rule_of_resolve_eq_ok hkind
    exact ⟨rule, hmem, haccepts⟩
  · rintro ⟨rule, hmem, haccepts⟩
    rw [resolve]
    cases hfind : table.find? fun rule => rule.accepts (normalized raw) with
    | none => exact absurd haccepts (List.find?_eq_none.mp hfind rule hmem)
    | some rule => exact ⟨rule.kind, rfl⟩

/-- The first rule that accepts gives the kind. -/
theorem resolve_eq_ok {place : Nat} {rule : Rule} (hrule : table[place]? = some rule)
    (haccepts : rule.accepts (normalized raw) = true)
    (hfirst : ∀ earlier < place, ∀ rule, table[earlier]? = some rule →
      rule.accepts (normalized raw) = false) : resolve table raw = .ok rule.kind := by
  obtain ⟨hlt, rfl⟩ := List.getElem?_eq_some_iff.mp hrule
  have hfind : table.find? (fun rule => rule.accepts (normalized raw)) = some table[place] := by
    rw [List.find?_eq_some_iff_getElem]
    refine ⟨haccepts, place, hlt, rfl, fun earlier hearlier => ?_⟩
    rw [hfirst earlier hearlier _ (List.getElem?_eq_getElem _)]
    rfl
  rw [resolve, hfind]

/-- Without a rule that accepts there is no kind. -/
theorem resolve_eq_error (h : ∀ rule ∈ table, rule.accepts (normalized raw) = false) :
    resolve table raw = .error ⟨raw⟩ := by
  have hfind : table.find? (fun rule => rule.accepts (normalized raw)) = none :=
    List.find?_eq_none.mpr fun rule hrule => Bool.eq_false_iff.mp (h rule hrule)
  rw [resolve, hfind]

/-- The refusal of a raw type repeats it as it is. -/
theorem raw_of_resolve_eq_error {e : UnsupportedType} (h : resolve table raw = .error e) :
    e.raw = raw := by
  rw [resolve] at h
  split at h
  · contradiction
  · rw [← Except.error.inj h]

/-- **The second table decides about what the first one does not know.** -/
theorem resolve_append (table table' : List Rule) (raw : String) :
    resolve (table ++ table') raw =
      if Knows table raw then resolve table raw else resolve table' raw := by
  have hknows : (∃ kind, resolve table raw = .ok kind) ↔ Knows table raw :=
    exists_resolve_eq_ok_iff
  simp only [resolve, List.find?_append] at hknows ⊢
  -- the second table is asked only if no rule of the first accepts
  cases hfind : table.find? fun rule => rule.accepts (normalized raw) with
  | none =>
      have hnot : ¬ Knows table raw := by
        rw [← hknows, hfind]
        rintro ⟨kind, hkind⟩
        contradiction
      rw [if_neg hnot, Option.none_or]
  | some rule =>
      have hknown : Knows table raw := by
        rw [← hknows, hfind]
        exact ⟨rule.kind, rfl⟩
      rw [if_pos hknown, Option.some_or]

/-- What the first table knows keeps its kind. -/
theorem resolve_append_eq_ok {kind : ColumnKind} (h : resolve table raw = .ok kind) :
    resolve (table ++ table') raw = .ok kind := by
  rw [resolve_append, if_pos (exists_resolve_eq_ok_iff.mp ⟨kind, h⟩), h]

/-! ## Tables of patterns -/

section Patterns

variable [Library]

/-- The rule of a pattern on its own. -/
def ownRule (pattern : String × ColumnKind) : Rule where
  accepts text := match Library.compile [pattern.1] with
    | .ok found => !(found text).isEmpty
    | .error _ => false
  kind := pattern.2

/-- It accepts the texts in which the pattern is found. -/
theorem accepts_ownRule_iff {pattern : String × ColumnKind} {text : List Char} :
    (ownRule pattern).accepts text = true ↔ FoundIn pattern.1 text := by
  show (match Library.compile [pattern.1] with
    | .ok found => !(found text).isEmpty
    | .error _ => false) = true ↔ _
  rw [FoundIn]
  cases Library.compile [pattern.1] with
  | error e => simp
  | ok found => simp

/-- Some rule of a list of patterns, each on its own, accepts the raw types in which one is found. -/
theorem knows_ownRules_iff {patterns : List (String × ColumnKind)} :
    Knows (patterns.map ownRule) raw ↔ ∃ pattern ∈ patterns, FoundIn pattern.1 (normalized raw) := by
  simp only [Knows, List.mem_map, exists_exists_and_eq_and, accepts_ownRule_iff]

/-- The first pattern that is found on its own gives the kind. -/
theorem resolve_ownRules_eq_ok {patterns : List (String × ColumnKind)} {pattern : String × ColumnKind}
    {place : Nat} (hpattern : patterns[place]? = some pattern)
    (hfound : FoundIn pattern.1 (normalized raw))
    (hfirst : ∀ earlier < place, ∀ pattern, patterns[earlier]? = some pattern →
      ¬FoundIn pattern.1 (normalized raw)) :
    resolve (patterns.map ownRule) raw = .ok pattern.2 := by
  have hrule : (patterns.map ownRule)[place]? = some (ownRule pattern) := by
    rw [List.getElem?_map, hpattern]
    rfl
  refine resolve_eq_ok hrule (accepts_ownRule_iff.mpr hfound) fun earlier hlt rule hearlier => ?_
  rw [List.getElem?_map] at hearlier
  obtain ⟨pattern', hpattern', rfl⟩ := Option.map_eq_some_iff.mp hearlier
  exact Bool.eq_false_iff.mpr (mt accepts_ownRule_iff.mp (hfirst earlier hlt pattern' hpattern'))

/-- A table of patterns is refused when the library refuses the patterns. -/
theorem rulesOfPatterns_eq_error_iff {patterns : List (String × ColumnKind)} {e : InvalidPattern} :
    rulesOfPatterns patterns = .error e ↔ Library.compile (patterns.map Prod.fst) = .error e := by
  rw [rulesOfPatterns]
  cases Library.compile (patterns.map Prod.fst) with
  | error e' =>
      exact ⟨fun h => congrArg _ (Except.error.inj h), fun h => congrArg _ (Except.error.inj h)⟩
  | ok found => exact iff_of_false (fun h => by contradiction) (fun h => by contradiction)

variable [LawfulLibrary] {patterns patterns' : List (String × ColumnKind)}

/-- **A table of patterns decides as its patterns do one by one.** -/
theorem resolve_rulesOfPatterns (h : rulesOfPatterns patterns = .ok table) (raw : String) :
    resolve table raw = resolve (patterns.map ownRule) raw := by
  obtain ⟨found, hfound, htable⟩ := bind_eq_ok_iff.mp h
  obtain rfl := Except.ok.inj htable
  cases hhead : (found (normalized raw)).head? with
  | none =>
      -- the set reports nothing, so no pattern is found on its own
      have hnone : ∀ pattern ∈ patterns, ¬FoundIn pattern.1 (normalized raw) := by
        intro pattern hpattern hown
        exact (Pattern.ne_nil_iff_exists_foundIn hfound _).mpr ⟨_, List.mem_map_of_mem hpattern, hown⟩
          (List.head?_eq_none_iff.mp hhead)
      rw [resolve_eq_error, resolve_eq_error]
      · intro rule hrule
        obtain ⟨pattern, hpattern, rfl⟩ := List.mem_map.mp hrule
        exact Bool.eq_false_iff.mpr (mt accepts_ownRule_iff.mp (hnone pattern hpattern))
      · intro rule hrule
        obtain ⟨place, hplace, rfl⟩ := List.mem_mapIdx.mp hrule
        simp [hhead]
  | some place =>
      -- the first pattern that the set reports is the first one that is found on its own
      obtain ⟨⟨p, hp, hown⟩, hfirst⟩ := (Pattern.head?_eq_some_iff hfound _ place).mp hhead
      rw [List.getElem?_map] at hp
      obtain ⟨pattern, hpattern, rfl⟩ := Option.map_eq_some_iff.mp hp
      have hkind : resolve (patterns.map ownRule) raw = .ok pattern.2 := by
        refine resolve_ownRules_eq_ok hpattern hown fun earlier hlt pattern' hpattern' => ?_
        refine hfirst earlier hlt pattern'.1 ?_
        rw [List.getElem?_map, hpattern']
        rfl
      have hrule : ((patterns.map Prod.snd).mapIdx fun place kind =>
          (⟨fun text => (found text).head? == some place, kind⟩ : Rule))[place]? =
            some ⟨fun text => (found text).head? == some place, pattern.2⟩ := by
        rw [List.getElem?_mapIdx, List.getElem?_map, hpattern]
        rfl
      rw [hkind, resolve_eq_ok hrule (beq_iff_eq.mpr hhead)]
      intro earlier hlt rule hearlier
      rw [List.getElem?_mapIdx] at hearlier
      obtain ⟨kind, -, rfl⟩ := Option.map_eq_some_iff.mp hearlier
      show ((found (normalized raw)).head? == some earlier) = false
      rw [hhead]
      exact beq_eq_false_iff_ne.mpr fun heq => Nat.ne_of_lt hlt (Option.some.inj heq).symm

/-- A table of patterns knows the raw types in which one of them is found. -/
theorem knows_rulesOfPatterns_iff (h : rulesOfPatterns patterns = .ok table) :
    Knows table raw ↔ ∃ pattern ∈ patterns, FoundIn pattern.1 (normalized raw) := by
  rw [← knows_ownRules_iff, ← exists_resolve_eq_ok_iff, ← exists_resolve_eq_ok_iff,
    resolve_rulesOfPatterns h]

/-- **The patterns of a second table decide about what those of the first one do not find.** -/
theorem resolve_rulesOfPatterns_append {all : List Rule} (h : rulesOfPatterns patterns = .ok table)
    (h' : rulesOfPatterns patterns' = .ok table')
    (hall : rulesOfPatterns (patterns ++ patterns') = .ok all) (raw : String) :
    resolve all raw = if Knows table raw then resolve table raw else resolve table' raw := by
  have hknows : Knows table raw ↔ Knows (patterns.map ownRule) raw := by
    rw [knows_rulesOfPatterns_iff h, knows_ownRules_iff]
  simp only [resolve_rulesOfPatterns hall, resolve_rulesOfPatterns h, resolve_rulesOfPatterns h', hknows,
    List.map_append, resolve_append]

/-- What the patterns of the first table know keeps its kind. -/
theorem resolve_rulesOfPatterns_append_eq_ok {all : List Rule} {kind : ColumnKind}
    (h : rulesOfPatterns patterns = .ok table)
    (hall : rulesOfPatterns (patterns ++ patterns') = .ok all) (hkind : resolve table raw = .ok kind) :
    resolve all raw = .ok kind := by
  rw [resolve_rulesOfPatterns h] at hkind
  rw [resolve_rulesOfPatterns hall, List.map_append]
  exact resolve_append_eq_ok hkind

end Patterns

end Tablewright.Dialect

import Tablewright.Pattern.Library

/-! # What is relied on of a library of regular expressions

A set of patterns is to tell of a text what its patterns tell of it one by one, in the order in which they
were given (`LawfulLibrary`). That is all that is assumed of a library. In particular it may refuse patterns
together that it takes one by one, since sets have a limit of their size.

To ask whether a pattern matches a whole text, the pattern is wrapped. Whether it then means what is meant is
up to the library and to the pattern, so it is a condition on patterns (`Wraps`). -/

namespace Tablewright.Pattern

/-- Does the library take the pattern on its own? -/
def Compiles [Library] (pattern : String) : Prop :=
  (Library.compile [pattern]).isOk = true

/-- Is the pattern on its own found in the text? -/
def FoundIn [Library] (pattern : String) (text : List Char) : Prop :=
  ∃ found, Library.compile [pattern] = .ok found ∧ found text ≠ []

/-- What is relied on of a library: a set reports exactly the patterns that are found on their own, in the
order of their places. -/
class LawfulLibrary [Library] : Prop where
  /-- A set of which some pattern is none is refused. -/
  compiles {patterns : List String} {found : List Char → List Nat}
    (h : Library.compile patterns = .ok found) : ∀ p ∈ patterns, Compiles p
  /-- A pattern is reported exactly if it is found on its own. -/
  mem_iff {patterns : List String} {found : List Char → List Nat}
    (h : Library.compile patterns = .ok found) (text : List Char) (place : Nat) :
    place ∈ found text ↔ ∃ p, patterns[place]? = some p ∧ FoundIn p text
  /-- The places are reported in ascending order. -/
  ascending {patterns : List String} {found : List Char → List Nat}
    (h : Library.compile patterns = .ok found) (text : List Char) : (found text).Pairwise (· < ·)

/-- A pattern that keeps its meaning when it is wrapped: it compiles alone exactly if it compiles wrapped,
and then the wrapped pattern is found in exactly the texts that the pattern matches in full. -/
structure Wraps [Library] (matchesInFull : String → List Char → Prop) (pattern : String) : Prop where
  compiles : Compiles (whole pattern) ↔ Compiles pattern
  foundIn_iff (h : Compiles (whole pattern)) (text : List Char) :
    FoundIn (whole pattern) text ↔ matchesInFull pattern text

section Lawful

variable [Library] [LawfulLibrary] {patterns : List String} {found : List Char → List Nat}

/-- A set reports something exactly if some pattern of it is found on its own. -/
theorem ne_nil_iff_exists_foundIn (h : Library.compile patterns = .ok found) (text : List Char) :
    found text ≠ [] ↔ ∃ p ∈ patterns, FoundIn p text := by
  constructor
  · intro hne
    obtain ⟨place, hplace⟩ := List.exists_mem_of_ne_nil (found text) hne
    obtain ⟨p, hp, hfound⟩ := (LawfulLibrary.mem_iff h text place).mp hplace
    exact ⟨p, List.mem_of_getElem? hp, hfound⟩
  · rintro ⟨p, hp, hfound⟩
    obtain ⟨place, hplace⟩ := List.mem_iff_getElem?.mp hp
    exact List.ne_nil_of_mem ((LawfulLibrary.mem_iff h text place).mpr ⟨p, hplace, hfound⟩)

/-- What a set reports first is the first of its patterns that is found on its own. -/
theorem head?_eq_some_iff (h : Library.compile patterns = .ok found) (text : List Char) (place : Nat) :
    (found text).head? = some place ↔ (∃ p, patterns[place]? = some p ∧ FoundIn p text) ∧
      ∀ earlier < place, ∀ p, patterns[earlier]? = some p → ¬FoundIn p text := by
  have hmem := LawfulLibrary.mem_iff h text
  have hascending := LawfulLibrary.ascending h text
  constructor
  · intro hhead
    obtain ⟨rest, hrest⟩ := List.head?_eq_some_iff.mp hhead
    refine ⟨(hmem place).mp (hrest ▸ List.mem_cons_self), fun earlier hlt p hp hfound => ?_⟩
    have hearlier : earlier ∈ found text := (hmem earlier).mpr ⟨p, hp, hfound⟩
    rw [hrest] at hearlier hascending
    rcases List.mem_cons.mp hearlier with rfl | hin
    · exact Nat.lt_irrefl _ hlt
    · exact Nat.lt_asymm hlt (List.rel_of_pairwise_cons hascending hin)
  · rintro ⟨hfound, hfirst⟩
    have hplace := (hmem place).mpr hfound
    obtain ⟨first, rest, hrest⟩ := List.exists_cons_of_ne_nil (List.ne_nil_of_mem hplace)
    -- the first place that is reported is not behind this one, and none in front of it is reported
    obtain ⟨p, hp, hpfound⟩ := (hmem first).mp (hrest ▸ List.mem_cons_self)
    have hle : place ≤ first := Nat.not_lt.mp fun hlt => hfirst first hlt p hp hpfound
    rw [hrest] at hplace hascending ⊢
    rcases List.mem_cons.mp hplace with rfl | hin
    · rfl
    · exact absurd (List.rel_of_pairwise_cons hascending hin) (Nat.not_lt.mpr hle)

end Lawful

end Tablewright.Pattern
